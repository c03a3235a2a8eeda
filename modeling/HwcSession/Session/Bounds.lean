import HwcSession.Session.State

/-!
# Indexing the per-display arrays

`hwc_display_` and `locker_` have `kNumDisplays` entries. The HWC2 entry points take a
64-bit `hwc2_display_t` from the client, the QService handlers an `int32` from a parcel,
and each has to reject an id outside the table before it indexes either array.

An entry point is modelled with its array accesses made explicit: it returns its status,
or the first out-of-range index it would use (`OutOfBounds`).

* `withDisplay_inBounds`: `CallDisplayFunction` and `CallLayerFunction` check
  `display >= kNumDisplays` before `SCOPE_LOCK(locker_[display])`, and never index out of
  range.
* `dsiClk_reads_past_table`: `SetDsiClk`, `GetDsiClk` and `GetSupportedDsiClk` reject only
  a negative `disp_id`, so `disp_id = kNumDisplays` reads `hwc_display_[kNumDisplays]`,
  where `QdcmCMDDispatch` checks the id first; and `SetOutputBuffer` compares
  `INT32(display)` with the virtual slot's id, so a 64-bit id that agrees with it in its
  low 32 bits passes the check and locks `locker_[display]`.
-/

namespace HwcSession.Session

open HwcSession.Basic

/-- An access to entry `index` of a per-display array, past its end. -/
structure OutOfBounds where
  index : Nat
  deriving DecidableEq, Repr

variable (lim : Limits)

/-- Entry `i` of an array of `kNumDisplays` entries whose contents are `a`. -/
def arrayAt {α : Type} (a : Nat → α) (i : Nat) : Except OutOfBounds α :=
  if i < lim.kNumDisplays then .ok (a i) else .error ⟨i⟩

/-- `SCOPE_LOCK(locker_[i])`. -/
def lockAt (i : Nat) : Except OutOfBounds Unit := arrayAt lim (fun _ => ()) i

/-- `hwc_display_[i]`. -/
def State.displayAt (s : State) (i : Nat) : Except OutOfBounds (Option HwcDisplay) :=
  arrayAt lim s.hwcDisplay i

/-- `INT32(x)`: the low 32 bits of `x`, read as a two's complement `int32_t`. -/
def toInt32 (x : Nat) : Int :=
  if x % 2 ^ 32 < 2 ^ 31 then (x % 2 ^ 32 : Nat) else (x % 2 ^ 32 : Nat) - 2 ^ 32

/-! ## The HWC2 entry points -/

/-- The body `CallDisplayFunction` and `CallLayerFunction` share: `device` is whether the
device pointer is non-null, and `act` is what the call does with the display at
`hwc_display_[display]`. -/
def withDisplay (device : Bool) (display : Nat) (act : HwcDisplay → Hwc2Error) (s : State) :
    Except OutOfBounds Hwc2Error :=
  if !device then pure .badParameter
  else if lim.kNumDisplays ≤ display then pure .badDisplay
  else do
    lockAt lim display
    match ← s.displayAt lim display with
    | some d => pure (act d)
    | none => pure .badDisplay

/-- `CallDisplayFunction(device, display, member, args...)`; `member` is the status the
display's method returns. -/
def callDisplayFunction (device : Bool) (display : Nat) (member : HwcDisplay → Hwc2Error)
    (s : State) : Except OutOfBounds Hwc2Error :=
  withDisplay lim device display member s

/-- `CallLayerFunction(device, display, layer, member, args...)`; `member` is the status of
the layer's method, `none` when `GetHWCLayer(layer)` finds no layer. -/
def callLayerFunction (device : Bool) (display : Nat) (member : HwcDisplay → Option Hwc2Error)
    (s : State) : Except OutOfBounds Hwc2Error :=
  withDisplay lim device display (fun d => (member d).getD .badLayer) s

/-- `SetOutputBuffer(device, display, buffer, releaseFence)`; `outputStatus` is what the
virtual display's `SetOutputBuffer` returns. -/
def setOutputBuffer (device : Bool) (display : Nat) (outputStatus : Hwc2Error) (s : State) :
    Except OutOfBounds Hwc2Error :=
  if !device then pure .badParameter
  else if toInt32 display ≠ s.getDisplayIndex displayVirtual then pure .unsupported
  else do
    lockAt lim display
    match ← s.displayAt lim display with
    | some _ => pure outputStatus
    | none => pure .badDisplay

/-! ## The QService handlers -/

/-- The body `SetDsiClk`, `GetDsiClk` and `GetSupportedDsiClk` share: `disp_id < 0` or an
empty `hwc_display_[disp_id]` is `-EINVAL`, otherwise `act` is what the call on
`hwc_display_[disp_id]`, read a second time, returns. -/
def dsiClkCommand (dispId : Int) (act : HwcDisplay → Int) (s : State) : Except OutOfBounds Int :=
  if dispId < 0 then pure (-eInval)
  else do
    match ← s.displayAt lim dispId.toNat with
    | none => pure (-eInval)
    | some _ =>
        match ← s.displayAt lim dispId.toNat with
        | some d => pure (act d)
        | none => pure (-eInval)

/-- `SetDsiClk(input_parcel)`; `clkStatus` is what the display's `SetDynamicDSIClock`
returns. -/
def setDsiClk (dispId : Int) (clkStatus : Int) (s : State) : Except OutOfBounds Int :=
  dsiClkCommand lim dispId (fun _ => clkStatus) s

/-- `GetDsiClk(input_parcel, output_parcel)`. -/
def getDsiClk (dispId : Int) (s : State) : Except OutOfBounds Int :=
  dsiClkCommand lim dispId (fun _ => noError) s

/-- `GetSupportedDsiClk(input_parcel, output_parcel)`. -/
def getSupportedDsiClk (dispId : Int) (s : State) : Except OutOfBounds Int :=
  dsiClkCommand lim dispId (fun _ => noError) s

/-- The id check at the top of `QdcmCMDDispatch(display_id, ...)`: an id outside the table
or an empty slot is `-ENODEV`; `dispatch` is what the rest of the command returns. -/
def qdcmCmdDispatch (displayId : Nat) (dispatch : HwcDisplay → Int) (s : State) :
    Except OutOfBounds Int :=
  if lim.kNumDisplays ≤ displayId then pure (-eNoDev)
  else do
    match ← s.displayAt lim displayId with
    | some d => pure (dispatch d)
    | none => pure (-eNoDev)

/-! ## Which ids reach the arrays -/

variable {lim}

theorem arrayAt_of_lt {α : Type} (a : Nat → α) {i : Nat} (h : i < lim.kNumDisplays) :
    arrayAt lim a i = .ok (a i) := if_pos h

theorem arrayAt_of_le {α : Type} (a : Nat → α) {i : Nat} (h : lim.kNumDisplays ≤ i) :
    arrayAt lim a i = .error ⟨i⟩ := if_neg (Nat.not_lt.2 h)

/-- `CallDisplayFunction` and `CallLayerFunction` index nothing out of range, whatever
`display` the client passes. -/
theorem withDisplay_inBounds (device : Bool) (display : Nat) (act : HwcDisplay → Hwc2Error)
    (s : State) (e : OutOfBounds) : withDisplay lim device display act s ≠ .error e := by
  unfold withDisplay
  split_ifs with hd hk
  · nofun
  · nofun
  · have hk : display < lim.kNumDisplays := Nat.not_le.1 hk
    simp only [lockAt, State.displayAt, arrayAt_of_lt _ hk]
    cases s.hwcDisplay display <;> nofun

theorem qdcmCmdDispatch_inBounds (displayId : Nat) (dispatch : HwcDisplay → Int) (s : State)
    (e : OutOfBounds) : qdcmCmdDispatch lim displayId dispatch s ≠ .error e := by
  unfold qdcmCmdDispatch
  split_ifs with hk
  · nofun
  · simp only [State.displayAt, arrayAt_of_lt _ (Nat.not_le.1 hk)]
    cases s.hwcDisplay displayId <;> nofun

/-- A nonnegative id past the table makes the shared body read `hwc_display_[disp_id]`. -/
theorem dsiClkCommand_of_le {dispId : Int} (h : (lim.kNumDisplays : Int) ≤ dispId)
    (act : HwcDisplay → Int) (s : State) :
    dsiClkCommand lim dispId act s = .error ⟨dispId.toNat⟩ := by
  have h₀ : ¬dispId < 0 := by omega
  have hk : lim.kNumDisplays ≤ dispId.toNat := by omega
  simp only [dsiClkCommand, h₀, if_false, State.displayAt, arrayAt_of_le _ hk]
  rfl

/-- An id past the table whose low 32 bits read as the virtual slot's id reaches
`SCOPE_LOCK(locker_[display])`. -/
theorem setOutputBuffer_reads_past_table {display : Nat} (s : State)
    (hd : toInt32 display = s.getDisplayIndex displayVirtual) (hk : lim.kNumDisplays ≤ display)
    (outputStatus : Hwc2Error) :
    setOutputBuffer lim true display outputStatus s = .error ⟨display⟩ := by
  simp only [setOutputBuffer, hd, ne_eq, not_true_eq_false, if_false, Bool.not_true,
    Bool.false_eq_true, lockAt, arrayAt_of_le _ hk]
  rfl

/-- The id `2 ^ 32 + v` passes `SetOutputBuffer`'s check when `v` is the first virtual
slot. -/
theorem toInt32_two_pow_add {v : Nat} (hv : v < 2 ^ 31) : toInt32 (2 ^ 32 + v) = v := by
  have h : (2 ^ 32 + v) % 2 ^ 32 = v := by omega
  rw [toInt32, h, if_pos hv]

/-- `SetDsiClk`, `GetDsiClk` and `GetSupportedDsiClk` check only `disp_id < 0`, so
`disp_id = kNumDisplays` reads `hwc_display_[kNumDisplays]`, where the id check of
`QdcmCMDDispatch` keeps every id inside the table. `SetOutputBuffer` has a defect of its
own: for the first virtual slot `v`, the 64-bit id `2 ^ 32 + v` passes its `INT32`
comparison and is locked as `locker_[2 ^ 32 + v]`. -/
theorem dsiClk_reads_past_table (clkStatus : Int) (dispatch : HwcDisplay → Int)
    (outputStatus : Hwc2Error) (s : State) :
    setDsiClk lim lim.kNumDisplays clkStatus s = .error ⟨lim.kNumDisplays⟩ ∧
      getDsiClk lim lim.kNumDisplays s = .error ⟨lim.kNumDisplays⟩ ∧
      getSupportedDsiClk lim lim.kNumDisplays s = .error ⟨lim.kNumDisplays⟩ ∧
      (∀ displayId e, qdcmCmdDispatch lim displayId dispatch s ≠ .error e) ∧
      ∀ v : Nat, s.getDisplayIndex displayVirtual = v → v < 2 ^ 31 → lim.kNumDisplays ≤ 2 ^ 32 →
        setOutputBuffer lim true (2 ^ 32 + v) outputStatus s = .error ⟨2 ^ 32 + v⟩ :=
  ⟨dsiClkCommand_of_le le_rfl _ s, dsiClkCommand_of_le le_rfl _ s,
    dsiClkCommand_of_le le_rfl _ s, fun d e => qdcmCmdDispatch_inBounds d dispatch s e,
    fun _ hv hlt hk => setOutputBuffer_reads_past_table s ((toInt32_two_pow_add hlt).trans hv.symm)
      (by omega) outputStatus⟩

/-- In a table of four whose first virtual slot is `3`, `SetOutputBuffer` locks
`locker_[2 ^ 32 + 3]`. -/
theorem dsiClk_reads_past_table_virtual_three :
    (State.empty ([1], [2], [3])).getDisplayIndex displayVirtual = (3 : Nat) ∧
      setOutputBuffer ⟨1, 1, 1, 4, by decide⟩ true (2 ^ 32 + 3) .none (State.empty ([1], [2], [3])) =
        .error ⟨2 ^ 32 + 3⟩ :=
  ⟨rfl, (dsiClk_reads_past_table 0 (fun _ => 0) .none _).2.2.2.2 3 rfl (by decide) (by decide)⟩

end HwcSession.Session
