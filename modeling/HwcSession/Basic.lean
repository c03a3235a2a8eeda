import Mathlib.Tactic

/-!
# Vocabulary shared by the session and the hint worker

`hwc_session.cpp` talks in three kinds of numbers: the errno-style status codes of the
power-hint worker and the QService handlers, the `HWC2::Error` codes returned to the
composer client, and the enumerations of power modes, display types and hotplug
states. This module fixes each of them once, with the values the platform headers give
them, so that every later module compares codes exactly as the C++ does.

The table sizes come from `HWCCallbacks` (`hwc_callbacks.h`), which is not part of the
sources modelled here; `Limits` takes them as parameters and carries the one relation
between them that the header states.
-/

namespace HwcSession.Basic

/-! ## Status codes -/

/-- `android::NO_ERROR`. -/
def noError : Int := 0
/-- `EINTR`, returned by the worker's wait when it is asked to exit. -/
def eIntr : Int := 4
/-- `EINVAL`. -/
def eInval : Int := 22
/-- `ENODEV`. -/
def eNoDev : Int := 19
/-- `EOPNOTSUPP`. -/
def eOpNotSupp : Int := 95
/-- `ENOTCONN`, the worker's code for a binder transaction failure. -/
def eNotConn : Int := 107

/-- The codes are pairwise distinct, so a comparison of two of them is decided by `simp`. -/
@[simp] theorem neg_eInval_ne_noError : -eInval ≠ noError := by decide
@[simp] theorem neg_eNotConn_ne_noError : -eNotConn ≠ noError := by decide
@[simp] theorem neg_eOpNotSupp_ne_noError : -eOpNotSupp ≠ noError := by decide
@[simp] theorem neg_eInval_ne_neg_eNotConn : -eInval ≠ -eNotConn := by decide
@[simp] theorem noError_ne_neg_eNotConn : noError ≠ -eNotConn := by decide
@[simp] theorem neg_eInval_ne_neg_eOpNotSupp : -eInval ≠ -eOpNotSupp := by decide
@[simp] theorem neg_eNotConn_ne_neg_eOpNotSupp : -eNotConn ≠ -eOpNotSupp := by decide

/-- `HWC2::Error`, in the order of `hwcomposer2.h`. -/
inductive Hwc2Error where
  | none | badConfig | badDisplay | badLayer | badParameter | hasChanges | noResources
  | notValidated | unsupported
  deriving DecidableEq, Repr

/-! ## Enumerations -/

/-- `HWC2::PowerMode`; the integer codes are `Off = 0, Doze = 1, On = 2,
DozeSuspend = 3`. -/
inductive PowerMode where
  | off | doze | on | dozeSuspend
  deriving DecidableEq, Repr

/-- `HWC2::PowerMode` from the client's `int32_t`, for the codes `SetPowerMode` accepts. -/
def PowerMode.ofInt? : Int → Option PowerMode
  | 0 => some .off
  | 1 => some .doze
  | 2 => some .on
  | 3 => some .dozeSuspend
  | _ => none

/-- `sdm::DisplayType` as the slot tables use it; `kDisplayTypeMax` marks an unset slot. -/
inductive DisplayType where
  | builtIn | pluggable | virtual | displayTypeMax
  deriving DecidableEq, Repr

/-- `HWC2::Connection`. -/
inductive Connection where
  | connected | disconnected
  deriving DecidableEq, Repr

/-! ## Table sizes -/

/-- The compile-time sizes of `HWCCallbacks`. The header defines `kNumDisplays` as one
primary slot plus the three pools, so the pools always fit in the display table. -/
structure Limits where
  kNumBuiltIn : Nat
  kNumPluggable : Nat
  kNumVirtual : Nat
  kNumDisplays : Nat
  pools_fit : 1 + kNumPluggable + kNumBuiltIn + kNumVirtual ≤ kNumDisplays

/-- `qdutils::DISPLAY_PRIMARY`, the primary's client id (`Primary = 0` in
`InitSupportedDisplaySlots`). -/
def displayPrimary : Int := 0
/-- `qdutils::DISPLAY_EXTERNAL`, the first pluggable client id (`External = 1`). -/
def displayExternal : Int := 1
/-- `qdutils::DISPLAY_VIRTUAL`. -/
def displayVirtual : Int := 2
/-- `qdutils::DISPLAY_BUILTIN_2`. -/
def displayBuiltin2 : Int := 3

/-- `HWC_DISPLAY_PRIMARY` as an `hwc2_display_t`. -/
def hwcDisplayPrimary : Nat := 0

/-- The conversion `(hwc2_display_t)` of an `int`: two's complement into 64 bits, so
`-1` becomes `2 ^ 64 - 1`. -/
def toDisplayId (i : Int) : Nat := (i % 2 ^ 64).toNat

theorem toDisplayId_of_nonneg {i : Int} (h0 : 0 ≤ i) (h : i < 2 ^ 64) :
    toDisplayId i = i.toNat := by
  rw [toDisplayId, Int.emod_eq_of_lt h0 h]

theorem toDisplayId_neg_one : toDisplayId (-1) = 2 ^ 64 - 1 := by decide

end HwcSession.Basic
