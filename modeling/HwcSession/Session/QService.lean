import HwcSession.Session.Bounds
import HwcSession.Session.Exclusion

/-!
# The QService handlers that walk a bit mask

Two QService handlers, `SetMaxMixerStages` and `SetFrameDumpConfig`, read a
`std::bitset<32>` of display types from their parcel and walk it from bit `0` to bit `31`.
For a set bit they look the slot up with `GetDisplayIndex`, skip it when there is none, and
otherwise call a setter on the slot's display. Their status starts at `0`: an empty slot
writes `-ENODEV` only while the status is still `0` (the source calls `-ENODEV` the lower
priority error), and a display that rejects the setter overwrites the status with the
handler's own code. `maskLoop` is that loop, once, with the code as a parameter.

## Main results

* `foldl_apply`: what a run of bits leaves, in closed form: the code of the last display
  that rejected the setter; with none, `-ENODEV` if a selected slot was empty, else `0`.
* `setMaxMixerStages_status`: `-EINVAL` as soon as one selected display rejects the
  setter, whatever the order of the bits; `-ENODEV` only when none does.
* `setFrameDumpConfig_status`: the display of the highest failing bit decides between
  `-ENOMEM` and `-EINVAL`.
* `maskLoop_low_bits`: only bits `0` to `3` of the mask, the display types `GetDisplayIndex`
  knows, select a display; a mask without them returns `0`.
* `qdcmCmdDispatch_skips_external`: in every reachable state `QdcmCMDDispatch` routes no
  colour request to a pluggable or virtual slot.
-/

namespace HwcSession.Session

open HwcSession.Basic

/-- `ENOMEM`. -/
def eNoMem : Int := 12

/-! ## The display-mask loop -/

/-- What one bit of `bit_mask_display_type` does to the handler's status. -/
inductive MaskEffect where
  /-- The bit is clear, `GetDisplayIndex` returns `-1`, or the display accepts the setter. -/
  | keep
  /-- The slot is empty: `status = (status)? status : -ENODEV`. -/
  | noDisplay
  /-- The display rejects the setter, and the handler writes `code`. -/
  | fail (code : Int)
  deriving DecidableEq, Repr

/-- The status after the bit. -/
def MaskEffect.apply : MaskEffect → Int → Int
  | .keep, status => status
  | .noDisplay, status => if status ≠ 0 then status else -eNoDev
  | .fail code, _ => code

/-- The code a failing bit writes. -/
def MaskEffect.code : MaskEffect → Option Int
  | .fail code => some code
  | _ => none

/-- Bit `i` sets, and `GetDisplayIndex(INT(i))` finds a slot. -/
def selected (mask : Nat) (s : State) (i : Nat) : Bool :=
  mask.testBit i && s.getDisplayIndex i ≠ -1

/-- The slot bit `i` stands for. -/
def slotOf (s : State) (i : Nat) : Nat := (s.getDisplayIndex i).toNat

/-- Bit `i` of the loop body. `failure c` is the status the handler writes when the display
at client id `c` rejects the setter, `none` when it accepts it. -/
def maskEffect (mask : Nat) (failure : Nat → Option Int) (s : State) (i : Nat) : MaskEffect :=
  if !mask.testBit i then .keep
  else
    let dispIdx := s.getDisplayIndex i
    if dispIdx = -1 then .keep
    else if !s.occupied dispIdx.toNat then .noDisplay
    else
      match failure dispIdx.toNat with
      | some code => .fail code
      | none => .keep

/-- The loop `SetMaxMixerStages` and `SetFrameDumpConfig` share, over the 32 bits of the mask,
from `status = 0`. -/
def maskLoop (mask : Nat) (failure : Nat → Option Int) (s : State) : Int :=
  (List.range 32).foldl (fun status i => (maskEffect mask failure s i).apply status) 0

/-- `SetMaxMixerStages(input_parcel)` with the mask it reads; `mixerStagesFailed c` is whether
the display at `c` returns an error other than `kErrorNone` from
`SetMaxMixerStages(max_mixer_stages)`. -/
def setMaxMixerStages (mask : Nat) (mixerStagesFailed : Nat → Bool) (s : State) : Int :=
  maskLoop mask (fun c => if mixerStagesFailed c then some (-eInval) else none) s

/-- `SetFrameDumpConfig(input_parcel)` with the mask it reads; `frameDumpError c` is what the
display at `c` returns from `SetFrameDumpConfig(frame_dump_count, bit_mask_layer_type)`. -/
def setFrameDumpConfig (mask : Nat) (frameDumpError : Nat → Hwc2Error) (s : State) : Int :=
  maskLoop mask (fun c =>
    if frameDumpError c ≠ .none then
      some (if frameDumpError c = .noResources then -eNoMem else -eInval)
    else none) s

/-! ## What a run of bits leaves -/

@[simp] theorem MaskEffect.code_keep : MaskEffect.keep.code = none := rfl
@[simp] theorem MaskEffect.code_noDisplay : MaskEffect.noDisplay.code = none := rfl
@[simp] theorem MaskEffect.code_fail (code : Int) : (MaskEffect.fail code).code = some code := rfl

theorem MaskEffect.fail_of_code {e : MaskEffect} {c : Int} (h : e.code = some c) :
    e = .fail c := by
  cases e <;> simp_all

theorem neg_eNoDev_ne_zero : -eNoDev ≠ 0 := by decide

/-- From `status`, a run of bits ends with the code of its last failure; with none, with
`-ENODEV` if it met an empty slot while the status was still `0`, else with `status`. -/
theorem foldl_apply {l : List MaskEffect} (hl : ∀ c, .fail c ∈ l → c ≠ 0) (status : Int) :
    l.foldl (fun st e => e.apply st) status =
      ((l.filterMap MaskEffect.code).getLast?).getD
        (if .noDisplay ∈ l ∧ status = 0 then -eNoDev else status) := by
  induction l using List.reverseRecOn with
  | nil => simp
  | append_singleton l e ih =>
    have ih := ih fun c hc => hl c (List.mem_append_left _ hc)
    rw [List.foldl_append, List.foldl_cons, List.foldl_nil, ih]
    cases e with
    | keep => simp [MaskEffect.apply]
    | fail c => simp [MaskEffect.apply]
    | noDisplay =>
      cases hlast : (l.filterMap MaskEffect.code).getLast? with
      | some c =>
        obtain ⟨ys, hys⟩ := List.getLast?_eq_some_iff.1 hlast
        have hc : c ≠ 0 := by
          obtain ⟨e, he, hce⟩ := List.mem_filterMap.1 (hys ▸ List.mem_append_right ys (.head _))
          exact hl c (List.mem_append_left _ (MaskEffect.fail_of_code hce ▸ he))
        simp [MaskEffect.apply, hlast, hc]
      | none =>
        by_cases hs : status = 0
        · subst hs
          by_cases hm : MaskEffect.noDisplay ∈ l <;>
            simp [MaskEffect.apply, hlast, hm, neg_eNoDev_ne_zero]
        · simp [MaskEffect.apply, hlast, hs]

/-- The last code of `f` over `0, ..., n - 1`, with the index it comes from. -/
theorem getLast?_filterMap_range {α : Type} (f : Nat → Option α) : ∀ n : Nat,
    (((List.range n).filterMap f).getLast? = none ∧ ∀ i < n, f i = none) ∨
      ∃ i < n, ((List.range n).filterMap f).getLast? = f i ∧ (f i).isSome ∧
        ∀ j < n, i < j → f j = none
  | 0 => .inl ⟨rfl, fun _ h => absurd h (Nat.not_lt_zero _)⟩
  | n + 1 => by
    rw [List.range_succ, List.filterMap_append, List.getLast?_append]
    cases hn : f n with
    | some a => exact .inr ⟨n, by omega, by simp [hn], by simp [hn], fun j hj hnj => by omega⟩
    | none =>
      have hnil : ([n].filterMap f).getLast? = none := by simp [hn]
      rw [hnil, Option.none_or]
      rcases getLast?_filterMap_range f n with ⟨h, hall⟩ | ⟨i, hi, h, hs, hlast⟩
      · refine .inl ⟨h, fun i hi => ?_⟩
        rcases Nat.lt_succ_iff_lt_or_eq.1 hi with hi | rfl
        exacts [hall i hi, hn]
      · refine .inr ⟨i, by omega, h, hs, fun j hj hij => ?_⟩
        rcases Nat.lt_succ_iff_lt_or_eq.1 hj with hj | rfl
        exacts [hlast j hj hij, hn]

section Mask

variable {mask : Nat} {failure : Nat → Option Int} {s : State}

theorem maskEffect_code (i : Nat) :
    (maskEffect mask failure s i).code =
      if selected mask s i ∧ s.occupied (slotOf s i) then failure (slotOf s i) else none := by
  unfold maskEffect selected slotOf
  cases hb : mask.testBit i <;> by_cases hd : s.getDisplayIndex i = -1 <;>
    cases ho : s.occupied (s.getDisplayIndex i).toNat <;> simp [hb, hd, ho]
  cases failure (s.getDisplayIndex i).toNat <;> rfl

theorem maskEffect_eq_noDisplay (i : Nat) :
    maskEffect mask failure s i = .noDisplay ↔
      selected mask s i ∧ s.occupied (slotOf s i) = false := by
  unfold maskEffect selected slotOf
  cases hb : mask.testBit i <;> by_cases hd : s.getDisplayIndex i = -1 <;>
    cases ho : s.occupied (s.getDisplayIndex i).toNat <;> simp [hb, hd, ho]
  cases failure (s.getDisplayIndex i).toNat <;> simp

/-- The loop ends with the code of the last display that rejected the setter; with none,
with `-ENODEV` if a selected slot was empty, else with `0`. -/
theorem maskLoop_eq (hf : ∀ c code, failure c = some code → code ≠ 0) :
    maskLoop mask failure s =
      (((List.range 32).filterMap fun i => (maskEffect mask failure s i).code).getLast?).getD
        (if ∃ i < 32, selected mask s i ∧ s.occupied (slotOf s i) = false then -eNoDev
          else 0) := by
  have hl : ∀ c, .fail c ∈ (List.range 32).map (maskEffect mask failure s) → c ≠ 0 := by
    intro c hc
    obtain ⟨i, -, hi⟩ := List.mem_map.1 hc
    have h := @maskEffect_code mask failure s i
    rw [hi, MaskEffect.code_fail] at h
    split_ifs at h
    exact hf _ c h.symm
  have hmap : maskLoop mask failure s =
      ((List.range 32).map (maskEffect mask failure s)).foldl (fun st e => e.apply st) 0 := by
    rw [maskLoop, List.foldl_map]
  rw [hmap, foldl_apply hl, List.filterMap_map]
  simp only [List.mem_map, List.mem_range, maskEffect_eq_noDisplay, and_true]
  rfl

end Mask

/-- `SetMaxMixerStages` fails with `-EINVAL` when one selected display rejects the setter,
whichever bit it comes from and whatever empty slots the loop meets before or after it;
with none, it fails with `-ENODEV` when a selected slot is empty. -/
theorem setMaxMixerStages_status (mask : Nat) (mixerStagesFailed : Nat → Bool) (s : State) :
    setMaxMixerStages mask mixerStagesFailed s =
      if ∃ i < 32, selected mask s i ∧ s.occupied (slotOf s i) ∧
          mixerStagesFailed (slotOf s i) then -eInval
      else if ∃ i < 32, selected mask s i ∧ s.occupied (slotOf s i) = false then -eNoDev
      else 0 := by
  have hf : ∀ c code, (if mixerStagesFailed c then some (-eInval) else none) = some code →
      code ≠ 0 := by
    intro c code h
    split_ifs at h
    cases h
    decide
  rw [setMaxMixerStages, maskLoop_eq hf]
  rcases getLast?_filterMap_range
      (fun i => (maskEffect mask (fun c => if mixerStagesFailed c then some (-eInval) else none)
        s i).code) 32 with ⟨h, hall⟩ | ⟨i, hi, h, hs, -⟩
  · have hno : ¬∃ i < 32, selected mask s i ∧ s.occupied (slotOf s i) ∧
        mixerStagesFailed (slotOf s i) := by
      rintro ⟨i, hi, hsel, hocc, hfail⟩
      have := hall i hi
      simp [maskEffect_code, hsel, hocc, hfail] at this
    rw [h, Option.getD_none, if_neg hno]
  · rw [maskEffect_code] at h hs
    by_cases hsel : selected mask s i ∧ s.occupied (slotOf s i)
    · rw [if_pos hsel] at h hs
      by_cases hfail : mixerStagesFailed (slotOf s i)
      · rw [h, if_pos hfail, Option.getD_some, if_pos ⟨i, hi, hsel.1, hsel.2, hfail⟩]
      · simp [hfail] at hs
    · rw [if_neg hsel] at hs
      cases hs

/-- `SetFrameDumpConfig` returns the code of the display at the highest selected bit that
rejected its setter: `-ENOMEM` for `NoResources`, `-EINVAL` for any other error. With no
such display it returns `-ENODEV` when a selected slot is empty, else `0`. -/
theorem setFrameDumpConfig_status (mask : Nat) (frameDumpError : Nat → Hwc2Error) (s : State) :
    (∃ i < 32, (selected mask s i ∧ s.occupied (slotOf s i) ∧
        frameDumpError (slotOf s i) ≠ .none) ∧
      (∀ j < 32, i < j → ¬(selected mask s j ∧ s.occupied (slotOf s j) ∧
        frameDumpError (slotOf s j) ≠ .none)) ∧
      setFrameDumpConfig mask frameDumpError s =
        if frameDumpError (slotOf s i) = .noResources then -eNoMem else -eInval) ∨
    ((∀ i < 32, ¬(selected mask s i ∧ s.occupied (slotOf s i) ∧
        frameDumpError (slotOf s i) ≠ .none)) ∧
      setFrameDumpConfig mask frameDumpError s =
        if ∃ i < 32, selected mask s i ∧ s.occupied (slotOf s i) = false then -eNoDev
        else 0) := by
  set failure : Nat → Option Int := fun c =>
    if frameDumpError c ≠ .none then
      some (if frameDumpError c = .noResources then -eNoMem else -eInval)
    else none with hfdef
  have hf : ∀ c code, failure c = some code → code ≠ 0 := by
    intro c code h
    simp only [hfdef] at h
    split_ifs at h <;> cases h <;> decide
  have hcode : ∀ i, (maskEffect mask failure s i).code = none ↔
      ¬(selected mask s i ∧ s.occupied (slotOf s i) ∧ frameDumpError (slotOf s i) ≠ .none) := by
    intro i
    rw [maskEffect_code]
    split_ifs with hsel
    · simp [hfdef, hsel]
    · exact iff_of_true rfl fun h => hsel ⟨h.1, h.2.1⟩
  have hloop : setFrameDumpConfig mask frameDumpError s = maskLoop mask failure s := rfl
  rw [hloop, maskLoop_eq hf]
  rcases getLast?_filterMap_range (fun i => (maskEffect mask failure s i).code) 32 with
    ⟨h, hall⟩ | ⟨i, hi, h, hs, hlast⟩
  · exact .inr ⟨fun i hi => (hcode i).1 (hall i hi), by rw [h, Option.getD_none]⟩
  · have hfail := (not_congr (hcode i)).1 (by simpa [Option.isSome_iff_ne_none] using hs)
    refine .inl ⟨i, hi, not_not.1 hfail, fun j hj hij => (hcode j).1 (hlast j hj hij), ?_⟩
    rw [h, maskEffect_code, if_pos ⟨(not_not.1 hfail).1, (not_not.1 hfail).2.1⟩]
    simp [hfdef, (not_not.1 hfail).2.2]

/-! ## The bits the loop reads -/

/-- `GetDisplayIndex` knows the display types `0` to `3` only. -/
theorem State.getDisplayIndex_of_le (s : State) {i : Nat} (h : 4 ≤ i) :
    s.getDisplayIndex i = -1 := by
  unfold State.getDisplayIndex
  simp only [displayPrimary, displayExternal, displayVirtual, displayBuiltin2]
  split_ifs <;> omega

theorem maskEffect_mod_sixteen (mask : Nat) (failure : Nat → Option Int) (s : State) (i : Nat) :
    maskEffect (mask % 16) failure s i = maskEffect mask failure s i := by
  by_cases hi : i < 4
  · have hb : (mask % 2 ^ 4).testBit i = mask.testBit i := by
      rw [Nat.testBit_mod_two_pow]
      simp [hi]
    unfold maskEffect
    rw [show (16 : Nat) = 2 ^ 4 from rfl, hb]
  · simp [maskEffect, s.getDisplayIndex_of_le (not_lt.1 hi)]

/-- The mask loops read bits `0` to `3` only, one per display type `GetDisplayIndex` knows:
the higher bits select nothing, and a mask without any of the four low bits returns `0`
without calling a display. -/
theorem maskLoop_low_bits (mask : Nat) (failure : Nat → Option Int) (s : State) :
    maskLoop mask failure s = maskLoop (mask % 16) failure s ∧
      (mask % 16 = 0 → maskLoop mask failure s = 0) := by
  have hmod : maskLoop mask failure s = maskLoop (mask % 16) failure s := by
    simp only [maskLoop, maskEffect_mod_sixteen]
  refine ⟨hmod, fun h0 => ?_⟩
  rw [hmod, h0, maskLoop]
  exact List.foldl_fixed' (fun i => by simp [maskEffect, MaskEffect.apply]) _

/-! ## Where `QdcmCMDDispatch` routes a request -/

/-- The rest of `QdcmCMDDispatch(display_id, ...)` after its id check: a request for
`map_info_primary_.client_id` or a builtin slot's client id goes to the display, where
`route d` is what `ColorSVCRequestRoute` returns; any other is skipped with `0`. -/
def qdcmRoute (s : State) (displayId : Nat) (route : HwcDisplay → Int) (d : HwcDisplay) : Int :=
  if displayId = hwcDisplayPrimary || s.mapInfoBuiltin.contains displayId then route d else 0

/-- In every reachable state a QDCM colour request for a pluggable or virtual slot never
reaches its display: `QdcmCMDDispatch` skips it with `0`, or refuses it with `-ENODEV` when
the slot is empty. -/
theorem qdcmCmdDispatch_skips_external {lim : Limits} {s : State} (hs : Reachable lim s)
    {displayId : Nat} (hd : displayId ∈ s.mapInfoPluggable ∨ displayId ∈ s.mapInfoVirtual)
    (route : HwcDisplay → Int) :
    qdcmCmdDispatch lim displayId (qdcmRoute s displayId route) s = .ok 0 ∨
      qdcmCmdDispatch lim displayId (qdcmRoute s displayId route) s = .ok (-eNoDev) := by
  have hc := hs.layout.consecutive
  have hne : displayId ≠ hwcDisplayPrimary :=
    hd.elim hc.ne_zero_of_mem_pluggable hc.ne_zero_of_mem_virtual
  have hnb : displayId ∉ s.mapInfoBuiltin :=
    hd.elim hc.not_mem_builtin_of_mem_pluggable hc.not_mem_builtin_of_mem_virtual
  have hr : qdcmRoute s displayId route = fun _ => 0 := by
    funext d
    simp [qdcmRoute, hne, hnb]
  rw [hr]
  unfold qdcmCmdDispatch
  split_ifs with hk
  · exact .inr rfl
  · simp only [State.displayAt, arrayAt_of_lt _ (Nat.not_le.1 hk)]
    cases s.hwcDisplay displayId
    · exact .inr rfl
    · exact .inl rfl

/-- Pluggable display `2` connected at boot, then a virtual display created. -/
def extAndVirtualState : State :=
  (afterBoot (bootOps (bootDisplays ++ [pluggableAt 2]) ++
    [.createVirtualDisplay 1920 1080 0 factory60
      (some (bootDisplays ++ [pluggableAt 2, ⟨5, .virtual, false, true⟩]))])).get (by decide)

/-- The virtual display of `extAndVirtualState`, in client id `4`. -/
theorem qdcmCmdDispatch_skips_external_virtual :
    Reachable lim4 extAndVirtualState ∧ 4 ∈ extAndVirtualState.mapInfoVirtual ∧
      extAndVirtualState.occupied 4 = true ∧
      (qdcmCmdDispatch lim4 4 (qdcmRoute extAndVirtualState 4 fun _ => 7) extAndVirtualState =
          .ok 0 ∨
        qdcmCmdDispatch lim4 4 (qdcmRoute extAndVirtualState 4 fun _ => 7) extAndVirtualState =
          .ok (-eNoDev)) :=
  ⟨reachable_of_bind (Option.some_get _).symm, by decide, by decide,
    qdcmCmdDispatch_skips_external (reachable_of_bind (Option.some_get _).symm) (.inr (by decide))
      _⟩

end HwcSession.Session
