import HwcSession.Session.Layout
import HwcSession.Session.SlotTable

/-!
# Which displays are active together

`HandleConcurrency` keeps two properties of the second builtin display (the first
occupied builtin slot, `GetNextBuiltinIndex()`), the first pluggable slot and the first
virtual slot:

* `State.SecondBuiltinExclusive`: while the second builtin is active (its last power mode
  is not `Off`), neither of the other two is active;
* `State.SoleDisplayActive`: while it is inactive, one of the other two that is present
  without the other is active.

Neither holds of every reachable state. `HandleConcurrency` does nothing before the
primary's first present, so a second builtin powered on while a virtual display exists
leaves both active when the primary becomes ready (`active_before_ready`); and
`NonBuiltinConcurrency` deactivates a pluggable or virtual display on every change while
the other kind is present, so both can end up inactive (`both_deactivated`).

What does hold: the first property is kept by every run from a ready state that has it,
as long as no `CreateVirtualDisplay` snapshot lists more than one virtual display (the
loop creates one display per entry and only the last is handled); and the second holds
in every reachable state with a builtin primary. Both proofs go through `Effect`: each
kind of change keeps the property.
-/

namespace HwcSession.Session

open HwcSession.Basic

variable (lim : Limits)

namespace State

/-- While the second builtin display is active, no display present in the first pluggable
or the first virtual slot is active. -/
def SecondBuiltinExclusive (s : State) : Prop :=
  s.getSecondBuiltinStatus = true → ∀ x, x = s.extDispIdx ∨ x = s.virDispIdx →
    s.present lim x = true → s.displayActive x = false

instance (s : State) : Decidable (s.SecondBuiltinExclusive lim) :=
  decidable_of_iff (s.getSecondBuiltinStatus = true →
      (s.present lim s.extDispIdx = true → s.displayActive s.extDispIdx = false) ∧
      (s.present lim s.virDispIdx = true → s.displayActive s.virDispIdx = false)) <| by
    refine ⟨fun h hb x hx => ?_, fun h hb => ⟨h hb _ (.inl rfl), h hb _ (.inr rfl)⟩⟩
    rcases hx with rfl | rfl
    exacts [(h hb).1, (h hb).2]

/-- While the second builtin display is inactive, of the first pluggable slot `x` and the
first virtual slot `y` (or the other way round), `x` is active when it is present and `y`
is not. -/
def SoleDisplayActive (s : State) : Prop :=
  s.getSecondBuiltinStatus = false → ∀ x y,
    (x = s.extDispIdx ∧ y = s.virDispIdx ∨ x = s.virDispIdx ∧ y = s.extDispIdx) →
    s.present lim x = true → s.present lim y = false → s.displayActive x = true

instance (s : State) : Decidable (s.SoleDisplayActive lim) :=
  decidable_of_iff (s.getSecondBuiltinStatus = false →
      (s.present lim s.extDispIdx = true → s.present lim s.virDispIdx = false →
        s.displayActive s.extDispIdx = true) ∧
      (s.present lim s.virDispIdx = true → s.present lim s.extDispIdx = false →
        s.displayActive s.virDispIdx = true)) <| by
    refine ⟨fun h hb x y hxy => ?_, fun h hb => ⟨h hb _ _ (.inl ⟨rfl, rfl⟩), h hb _ _ (.inr ⟨rfl, rfl⟩)⟩⟩
    rcases hxy with ⟨rfl, rfl⟩ | ⟨rfl, rfl⟩
    exacts [(h hb).1, (h hb).2]

end State

/-! ## Neither property holds of every reachable state -/

set_option maxRecDepth 4000 in
/-- A virtual display created and the second builtin powered on before the primary's
first present: once the primary is ready, both are active. -/
theorem active_before_ready :
    (afterBoot [.registerCallback .hotplug true factory60 (some bootDisplays),
      .createVirtualDisplay 1920 1080 0 factory60
        (some (bootDisplays ++ [⟨5, .virtual, false, true⟩])),
      .setPowerMode 3 2 .none,
      .presentDisplay 0 0 .none factory60 (some bootDisplays)]).any
      (fun s => s.primaryReady && !decide (s.SecondBuiltinExclusive lim4)) = true := by
  decide

/-- A pluggable display connected at the first present, then a virtual display created
(and deactivated, the pluggable one being present), then the pluggable display powered on
(and deactivated, the virtual one being present): with the second builtin off, both are
present and neither is active. -/
theorem both_deactivated :
    (afterBoot [.registerCallback .hotplug true factory60 (some bootDisplays),
      .presentDisplay 0 0 .none factory60 (some (bootDisplays ++ [pluggableAt 2])),
      .createVirtualDisplay 1920 1080 0 factory60
        (some (bootDisplays ++ [pluggableAt 2, ⟨5, .virtual, false, true⟩])),
      .setPowerMode 1 2 .none]).any
      (fun s => s.primaryReady && !s.getSecondBuiltinStatus && s.extDispPresent lim4 &&
        s.virDispPresent lim4 && !s.displayActive s.extDispIdx &&
        !s.displayActive s.virDispIdx) = true := by
  decide

/-! ## What `HandleConcurrency` does to them -/

variable {lim} {s t : State} {c : Nat}

namespace State

theorem extDispIdx_eq_of_pools (h : t.pools = s.pools) : t.extDispIdx = s.extDispIdx := by
  simp only [pools, Prod.mk.injEq] at h
  simp only [extDispIdx, getDisplayIndex_external, h.1]

theorem virDispIdx_eq_of_pools (h : t.pools = s.pools) : t.virDispIdx = s.virDispIdx := by
  simp only [pools, Prod.mk.injEq] at h
  simp only [virDispIdx, getDisplayIndex_virtual, h.2.2]

theorem present_eq_of_occupied (h : t.occupied = s.occupied) : t.present lim = s.present lim := by
  funext x
  simp only [present, h]

@[simp] theorem present_activateDisplay (x : Nat) (e : Bool) :
    (s.activateDisplay x e).present lim = s.present lim :=
  present_eq_of_occupied (activateDisplay_occupied s x e)

@[simp] theorem activateDisplay_extDispIdx (x : Nat) (e : Bool) :
    (s.activateDisplay x e).extDispIdx = s.extDispIdx := rfl

@[simp] theorem activateDisplay_virDispIdx (x : Nat) (e : Bool) :
    (s.activateDisplay x e).virDispIdx = s.virDispIdx := rfl

theorem occupied_of_present {x : Nat} (h : s.present lim x = true) : s.occupied x = true := by
  simp only [present, Bool.and_eq_true] at h
  exact h.2

theorem displayActive_activateDisplay_self (x : Nat) (e : Bool) :
    (s.activateDisplay x e).displayActive x = (s.occupied x && e) := by
  simp [activateDisplay_displayActive]

theorem displayActive_activateDisplay_of_ne {x y : Nat} (e : Bool) (h : y ≠ x) :
    (s.activateDisplay x e).displayActive y = s.displayActive y := by
  simp [activateDisplay_displayActive, h]

end State

/-- `cocu_disp`, the one of the first pluggable and the first virtual slot that `c` is not:
with `c`, it is the pair of slots in one order or the other. -/
theorem pair_cases {x y cocu : Nat}
    (hcocu : (if c = s.extDispIdx then s.virDispIdx else s.extDispIdx) = cocu)
    (hxy : x = s.extDispIdx ∧ y = s.virDispIdx ∨ x = s.virDispIdx ∧ y = s.extDispIdx)
    (hc : c = s.extDispIdx ∨ c = s.virDispIdx) :
    x = c ∧ y = cocu ∨ x = cocu ∧ y = c := by
  subst hcocu
  by_cases hE : c = s.extDispIdx <;> simp only [hE, if_true, if_false] <;>
    rcases hxy with ⟨rfl, rfl⟩ | ⟨rfl, rfl⟩
  · exact .inl ⟨rfl, rfl⟩
  · exact .inr ⟨rfl, rfl⟩
  · exact .inr ⟨rfl, (hc.resolve_left hE).symm⟩
  · exact .inl ⟨(hc.resolve_left hE).symm, rfl⟩

/-- The branch of `HandleConcurrency` for the second builtin establishes both
properties, whatever held before. -/
theorem handleConcurrency_next_builtin (hr : s.primaryReady = true)
    (hc : c = s.getNextBuiltinIndex) :
    (handleConcurrency lim c s).SecondBuiltinExclusive lim ∧
      (handleConcurrency lim c s).SoleDisplayActive lim := by
  have hp : (handleConcurrency lim c s).present lim = s.present lim :=
    State.present_eq_of_occupied (handleConcurrency_occupied c s)
  have hE : (handleConcurrency lim c s).extDispIdx = s.extDispIdx :=
    State.extDispIdx_eq_of_pools (handleConcurrency_pools c s)
  have hV : (handleConcurrency lim c s).virDispIdx = s.virDispIdx :=
    State.virDispIdx_eq_of_pools (handleConcurrency_pools c s)
  have hB : (handleConcurrency lim c s).getSecondBuiltinStatus = s.getSecondBuiltinStatus :=
    (handleConcurrency_activated c s).getSecondBuiltinStatus
  refine ⟨fun hb x hx hpx => ?_, fun hb x y hxy hx hy => ?_⟩ <;>
    rw [hB] at hb <;> rw [hp] at * <;> rw [hE, hV] at * <;>
    unfold handleConcurrency <;>
    simp only [hr, hc, hb, not_true_eq_false, if_false, if_true, State.extDispPresent,
      State.virDispPresent, Bool.false_eq_true]
  · rcases hx with rfl | rfl <;> split_ifs <;>
      simp_all [State.activateDisplay_displayActive, State.present]
  · rcases hxy with ⟨rfl, rfl⟩ | ⟨rfl, rfl⟩ <;> split_ifs <;>
      simp_all [State.activateDisplay_displayActive, State.present]

/-- `HandleConcurrency` enables a display only while the second builtin is inactive, so it
keeps `SecondBuiltinExclusive`. -/
theorem secondBuiltinExclusive_handleConcurrency (h : s.SecondBuiltinExclusive lim) :
    (handleConcurrency lim c s).SecondBuiltinExclusive lim := by
  have ha := (handleConcurrency_activated c s : Activated _ s (handleConcurrency lim c s))
  intro hb x hx hpx
  rw [ha.getSecondBuiltinStatus] at hb
  rw [State.extDispIdx_eq_of_pools (handleConcurrency_pools c s),
    State.virDispIdx_eq_of_pools (handleConcurrency_pools c s)] at hx
  rw [State.present_eq_of_occupied ha.occupied] at hpx
  cases hact : (handleConcurrency lim c s).displayActive x
  · rfl
  · simpa [h hb x hx hpx] using ha.displayActive_of_not_allowed (by simp [hb]) x hact

/-- `NonBuiltinConcurrency` keeps `SoleDisplayActive`; for a first pluggable or virtual slot
that holds no display it establishes it. -/
theorem soleDisplayActive_nonBuiltinConcurrency {b : Bool} (hb : s.getSecondBuiltinStatus = b)
    (h : (c ≠ s.extDispIdx ∧ c ≠ s.virDispIdx) ∨ s.occupied c = true →
      s.SoleDisplayActive lim) :
    (nonBuiltinConcurrency lim c b s).SoleDisplayActive lim := by
  unfold nonBuiltinConcurrency
  dsimp only
  generalize hcocu : (if c = s.extDispIdx then s.virDispIdx else s.extDispIdx) = cocu
  split_ifs with hc hoc hbP hbP'
  · exact h (.inl hc)
  all_goals
    have hc' : c = s.extDispIdx ∨ c = s.virDispIdx := by omega
    intro hb' x y hxy hx hy
    try simp only [State.activateDisplay_getSecondBuiltinStatus, State.present_activateDisplay,
      State.activateDisplay_extDispIdx, State.activateDisplay_virDispIdx] at hb' hx hy hxy ⊢
    obtain rfl : b = false := hb.symm.trans hb'
  · -- `c` changed while `cocu` is present: `c` is deactivated
    have hP : s.present lim cocu = true := by simpa using hbP
    rcases pair_cases hcocu hxy hc' with ⟨rfl, rfl⟩ | ⟨rfl, rfl⟩
    · simp [hP] at hy
    · have hne : x ≠ y := fun e => by simp [e, hy] at hx
      rw [State.displayActive_activateDisplay_of_ne _ hne]
      exact h (.inr hoc) hb' _ _ hxy hx hy
  · exact h (.inr hoc) hb' _ _ hxy hx hy
  · -- `c` went away while `cocu` is present: `cocu` is activated
    rcases pair_cases hcocu hxy hc' with ⟨rfl, rfl⟩ | ⟨rfl, rfl⟩
    · simp [State.occupied_of_present hx] at hoc
    · simp [State.displayActive_activateDisplay_self, State.occupied_of_present hx]
  · -- `c` went away and `cocu` is absent: neither is present
    have hP : s.present lim cocu = false := by simpa using hbP'
    rcases pair_cases hcocu hxy hc' with ⟨rfl, rfl⟩ | ⟨rfl, rfl⟩
    · simp [State.occupied_of_present hx] at hoc
    · simp [hP] at hx

theorem handleConcurrency_of_ne (hr : s.primaryReady = true) (hB : c ≠ s.getNextBuiltinIndex) :
    handleConcurrency lim c s = nonBuiltinConcurrency lim c s.getSecondBuiltinStatus s := by
  simp [handleConcurrency, hr, hB]

theorem soleDisplayActive_handleConcurrency (h : s.SoleDisplayActive lim) :
    (handleConcurrency lim c s).SoleDisplayActive lim := by
  by_cases hr : s.primaryReady = true
  · by_cases hB : c = s.getNextBuiltinIndex
    · exact (handleConcurrency_next_builtin hr hB).2
    · rw [handleConcurrency_of_ne hr hB]
      exact soleDisplayActive_nonBuiltinConcurrency rfl fun _ => h
  · simpa [handleConcurrency, hr] using h

/-- `HandleConcurrency` for a first pluggable or virtual slot just emptied activates the
other one if it is present alone. -/
theorem soleDisplayActive_handleConcurrency_vacated (hr : s.primaryReady = true)
    (hB : c ≠ s.getNextBuiltinIndex) (hc : c = s.extDispIdx ∨ c = s.virDispIdx)
    (ho : s.occupied c = false) : (handleConcurrency lim c s).SoleDisplayActive lim := by
  rw [handleConcurrency_of_ne hr hB]
  exact soleDisplayActive_nonBuiltinConcurrency rfl fun h => by
    rcases h with ⟨h₁, h₂⟩ | h
    · exact absurd hc (by tauto)
    · simp [ho] at h

/-- While the second builtin is active, `HandleConcurrency` leaves a display in the first
pluggable or virtual slot inactive. -/
theorem displayActive_handleConcurrency_self (hr : s.primaryReady = true)
    (hB : c ≠ s.getNextBuiltinIndex) (hc : c = s.extDispIdx ∨ c = s.virDispIdx)
    (hb : s.getSecondBuiltinStatus = true) : (handleConcurrency lim c s).displayActive c = false := by
  rw [handleConcurrency_of_ne hr hB]
  unfold nonBuiltinConcurrency
  have hc' : ¬(c ≠ s.extDispIdx ∧ c ≠ s.virDispIdx) := by tauto
  simp only [hc', hb, if_false, Bool.true_or, if_true, Bool.not_true, Bool.false_and,
    Bool.false_eq_true]
  split_ifs with ho
  · simp [State.displayActive_activateDisplay_self]
  · simp [State.displayActive, State.occupied] at ho ⊢
    simp [ho]

/-! ## Changes of one slot -/

/-- Both properties read only the second builtin's status and, at the first pluggable and
the first virtual slot, presence and activity. -/
structure SameView (lim : Limits) (s t : State) : Prop where
  secondBuiltin : t.getSecondBuiltinStatus = s.getSecondBuiltinStatus
  ext : t.extDispIdx = s.extDispIdx
  vir : t.virDispIdx = s.virDispIdx
  slots : ∀ x, x = s.extDispIdx ∨ x = s.virDispIdx →
    t.present lim x = s.present lim x ∧ t.displayActive x = s.displayActive x

namespace SameView

theorem secondBuiltinExclusive (hv : SameView lim s t) (h : s.SecondBuiltinExclusive lim) :
    t.SecondBuiltinExclusive lim := by
  intro hb x hx hp
  rw [hv.ext, hv.vir] at hx
  rw [(hv.slots x hx).2]
  exact h (hv.secondBuiltin ▸ hb) x hx ((hv.slots x hx).1 ▸ hp)

theorem soleDisplayActive (hv : SameView lim s t) (h : s.SoleDisplayActive lim) :
    t.SoleDisplayActive lim := by
  intro hb x y hxy hx hy
  rw [hv.ext, hv.vir] at hxy
  have hx' : x = s.extDispIdx ∨ x = s.virDispIdx := by tauto
  have hy' : y = s.extDispIdx ∨ y = s.virDispIdx := by tauto
  rw [(hv.slots x hx').2]
  exact h (hv.secondBuiltin ▸ hb) x y hxy ((hv.slots x hx').1 ▸ hx) ((hv.slots y hy').1 ▸ hy)

/-- The same display table, as far as occupancy, power and activation go. -/
theorem of_table (hp : t.pools = s.pools) (ho : t.occupied = s.occupied)
    (hw : t.poweredOn = s.poweredOn) (ha : t.displayActive = s.displayActive) :
    SameView lim s t :=
  ⟨State.getSecondBuiltinStatus_congr (congrArg (·.2.1) hp) (fun c _ => by rw [ho])
    (fun _ => by rw [hw]), State.extDispIdx_eq_of_pools hp, State.virDispIdx_eq_of_pools hp,
    fun x _ => ⟨by rw [State.present_eq_of_occupied ho], by rw [ha]⟩⟩

theorem of_hwcDisplay (hp : t.pools = s.pools) (hd : t.hwcDisplay = s.hwcDisplay) :
    SameView lim s t :=
  of_table hp (by funext x; simp [State.occupied, hd]) (by funext x; simp [State.poweredOn, hd])
    (by funext x; simp [State.displayActive, hd])

/-- A change of a slot that is not a builtin one, nor the first pluggable or virtual one. -/
theorem setDisplay (hc : c ∉ s.mapInfoBuiltin) (hE : c ≠ s.extDispIdx) (hV : c ≠ s.virDispIdx)
    (d : Option HwcDisplay) : SameView lim s (s.setDisplay c d) := by
  refine ⟨s.getSecondBuiltinStatus_setDisplay d hc, rfl, rfl, fun x hx => ?_⟩
  have hxc : x ≠ c := by rintro rfl; tauto
  simp only [State.present, State.setDisplay_occupied_of_ne _ _ _ hxc,
    State.setDisplay_displayActive_of_ne _ _ _ hxc, and_self]

end SameView

/-- Taking a display out of a slot outside the builtin pool keeps `SecondBuiltinExclusive`. -/
theorem secondBuiltinExclusive_setDisplay_none (hc : c ∉ s.mapInfoBuiltin)
    (h : s.SecondBuiltinExclusive lim) : (s.setDisplay c none).SecondBuiltinExclusive lim := by
  intro hb x hx hp
  rw [s.getSecondBuiltinStatus_setDisplay none hc] at hb
  by_cases hxc : x = c
  · subst hxc; simp
  · rw [State.setDisplay_displayActive_of_ne _ _ _ hxc]
    refine h hb x hx ?_
    simpa [State.present, State.setDisplay_occupied_of_ne _ _ _ hxc] using hp

/-- A new active display in a slot outside the builtin pool keeps `SoleDisplayActive`. -/
theorem soleDisplayActive_setDisplay_active {d : HwcDisplay} (hc : c ∉ s.mapInfoBuiltin)
    (hd : d.active = true) (h : s.SoleDisplayActive lim) :
    (s.setDisplay c (some d)).SoleDisplayActive lim := by
  intro hb x y hxy hx hy
  rw [s.getSecondBuiltinStatus_setDisplay _ hc] at hb
  have hy' : s.present lim y = false := by
    by_cases hyc : y = c
    · subst hyc
      simp [State.present] at hy ⊢
      omega
    · simpa [State.present, State.setDisplay_occupied_of_ne _ _ _ hyc] using hy
  by_cases hxc : x = c
  · subst hxc; simp [hd]
  · rw [State.setDisplay_displayActive_of_ne _ _ _ hxc]
    refine h hb x y hxy ?_ hy'
    simpa [State.present, State.setDisplay_occupied_of_ne _ _ _ hxc] using hx

/-- With every builtin slot off, the second builtin is inactive. -/
theorem getSecondBuiltinStatus_eq_false (h : ∀ c ∈ s.mapInfoBuiltin, s.poweredOn c = false) :
    s.getSecondBuiltinStatus = false := by
  unfold State.getSecondBuiltinStatus
  rcases s.getNextBuiltinIndex_mem with hm | hz
  · simp [h _ hm]
  · simp [hz]

/-- `HandleConcurrency` for a first pluggable or virtual slot `c` restores
`SecondBuiltinExclusive` when only `c` can break it. -/
theorem secondBuiltinExclusive_handleConcurrency_self (hr : s.primaryReady = true)
    (hB : c ≠ s.getNextBuiltinIndex) (hc : c = s.extDispIdx ∨ c = s.virDispIdx)
    (h : s.getSecondBuiltinStatus = true → ∀ x, x = s.extDispIdx ∨ x = s.virDispIdx → x ≠ c →
      s.present lim x = true → s.displayActive x = false) :
    (handleConcurrency lim c s).SecondBuiltinExclusive lim := by
  have ha := (handleConcurrency_activated c s : Activated _ s (handleConcurrency lim c s))
  intro hb x hx hpx
  rw [ha.getSecondBuiltinStatus] at hb
  rw [State.extDispIdx_eq_of_pools (handleConcurrency_pools c s),
    State.virDispIdx_eq_of_pools (handleConcurrency_pools c s)] at hx
  rw [State.present_eq_of_occupied ha.occupied] at hpx
  by_cases hxc : x = c
  · subst hxc; exact displayActive_handleConcurrency_self hr hB hc hb
  · cases hact : (handleConcurrency lim c s).displayActive x
    · rfl
    · simpa [h hb x hx hxc hpx] using ha.displayActive_of_not_allowed (by simp [hb]) x hact

/-- A client id of the pluggable or the virtual pool is neither a builtin slot nor the
second builtin's index. -/
theorem not_builtin_of_mem {s : State} (hs : Consecutive s.pools) {c : Nat}
    (hc : c ∈ s.mapInfoPluggable ∨ c ∈ s.mapInfoVirtual) :
    c ∉ s.mapInfoBuiltin ∧ c ≠ s.getNextBuiltinIndex := by
  have hnb : c ∉ s.mapInfoBuiltin :=
    hc.elim hs.not_mem_builtin_of_mem_pluggable hs.not_mem_builtin_of_mem_virtual
  refine ⟨hnb, fun he => ?_⟩
  rcases s.getNextBuiltinIndex_mem with hm | hz
  · exact hnb (he ▸ hm)
  · obtain ⟨p, b, v, -, -, -, hpools⟩ := hs
    simp only [State.pools, Prod.mk.injEq] at hpools
    rcases hc with hc | hc <;> simp only [hpools, List.mem_range'_1] at hc <;> omega

/-! ## Every change keeps `SecondBuiltinExclusive` from a ready state -/

variable {l : Bool}

theorem Effect.primaryReady (he : Effect lim l s t) (h : s.primaryReady = true) :
    t.primaryReady = true := by
  cases he with
  | register f i d p => rw [(registerCallback_registered f i d p s).primaryReady]; exact h
  | _ => simp [h]

/-- A power mode set on a display that is not the second builtin keeps the view. -/
theorem sameView_powerMode {d : HwcDisplay} (hd : s.hwcDisplay c = some d) (m : PowerMode)
    (hB : c ≠ s.getNextBuiltinIndex) :
    SameView lim s (s.setDisplay c (some { d with lastPowerMode := m })) := by
  have ho : (s.setDisplay c (some { d with lastPowerMode := m })).occupied = s.occupied :=
    s.setDisplay_occupied_of_some c hd _
  have ha : (s.setDisplay c (some { d with lastPowerMode := m })).displayActive =
      s.displayActive := s.setDisplay_displayActive_of_some c hd _ rfl
  exact ⟨State.getSecondBuiltinStatus_congr rfl (fun x _ => by rw [ho])
      (fun _ => State.setDisplay_poweredOn_of_ne _ _ _ (Ne.symm hB)), rfl, rfl,
    fun x _ => ⟨by rw [State.present_eq_of_occupied ho], by rw [ha]⟩⟩

/-- Setting a display's active config changes nothing the view reads. -/
theorem sameView_activeConfig {d : HwcDisplay} (hd : s.hwcDisplay c = some d) (k : Nat) :
    SameView lim s (s.setDisplay c (some { d with activeConfig := k })) :=
  SameView.of_table (s.setDisplay_pools c _) (s.setDisplay_occupied_of_some c hd _)
    (s.setDisplay_poweredOn_of_some c hd _ rfl) (s.setDisplay_displayActive_of_some c hd _ rfl)

theorem sameView_setMapInfo (m : MapInfo) : SameView lim s (s.setMapInfo c m) :=
  SameView.of_table rfl rfl rfl rfl

theorem Effect.secondBuiltinExclusive (he : Effect lim false s t) (hs : s.Layout)
    (hr : s.primaryReady = true) (h : s.SecondBuiltinExclusive lim) :
    t.SecondBuiltinExclusive lim := by
  have hcs := hs.consecutive
  cases he with
  | concurrency c => exact secondBuiltinExclusive_handleConcurrency h
  | powerMode c d m _ hd =>
      refine (SameView.of_hwcDisplay (updateRefreshRateHint_pools _)
        (updateRefreshRateHint_hwcDisplay _)).secondBuiltinExclusive ?_
      by_cases hB : c = s.getNextBuiltinIndex
      · have hr' : (s.setDisplay c (some { d with lastPowerMode := m })).primaryReady = true := hr
        refine (handleConcurrency_next_builtin hr' ?_).1
        simp only [State.getNextBuiltinIndex,
          s.setDisplay_occupied_of_some c hd { d with lastPowerMode := m }]
        exact hB
      · exact secondBuiltinExclusive_handleConcurrency
          ((sameView_powerMode hd m hB).secondBuiltinExclusive h)
  | connect c d m _ hc hfree hd =>
      have hc' : c ∈ s.mapInfoPluggable ∨ c ∈ s.mapInfoVirtual := hc.imp_left (·.1)
      have hnb := (not_builtin_of_mem hcs hc').1
      by_cases hcE : c = s.extDispIdx ∨ c = s.virDispIdx
      · refine secondBuiltinExclusive_handleConcurrency_self hr
          (not_builtin_of_mem (by simpa using hcs) (by simpa using hc')).2 (by simpa using hcE)
          fun hb x hx hxc hpx => ?_
        simp only [State.setMapInfo_getSecondBuiltinStatus, State.setMapInfo_displayActive,
          State.setMapInfo_extDispIdx, State.setMapInfo_virDispIdx, State.setDisplay_extDispIdx,
          State.setDisplay_virDispIdx, State.getSecondBuiltinStatus_setDisplay _ _ hnb,
          State.setDisplay_displayActive_of_ne _ _ _ hxc] at hb hx hpx ⊢
        refine h hb x hx ?_
        simpa [State.present, State.setDisplay_occupied_of_ne _ _ _ hxc] using hpx
      · rw [not_or] at hcE
        exact secondBuiltinExclusive_handleConcurrency ((sameView_setMapInfo m).secondBuiltinExclusive
          ((SameView.setDisplay hnb hcE.1 hcE.2 (some d)).secondBuiltinExclusive h))
  | createVirtual _ _ _ _ hl => exact absurd hl Bool.false_ne_true
  | disconnect c _ hc =>
      exact secondBuiltinExclusive_handleConcurrency ((sameView_setMapInfo _).secondBuiltinExclusive
        (secondBuiltinExclusive_setDisplay_none (not_builtin_of_mem hcs hc).1 h))
  | destroy c _ hc =>
      have hnb : c ∉ s.mapInfoBuiltin := by
        rcases hc with rfl | hc
        · exact hcs.zero_not_mem_builtin
        · exact hcs.not_mem_builtin_of_mem_pluggable hc
      exact (sameView_setMapInfo _).secondBuiltinExclusive
        (secondBuiltinExclusive_setDisplay_none hnb h)
  | register f i d p =>
      have hreg := (registerCallback_registered f i d p s : Registered s (registerCallback lim f i d p s))
      cases hcc : s.clientConnected
      · exact fun hb => absurd hb (by
          rw [getSecondBuiltinStatus_eq_false (hreg.builtins_off hs.builtinsFree hcc)]
          exact Bool.false_ne_true)
      · exact (SameView.of_hwcDisplay hreg.pools (hreg.hwcDisplay_eq hcc)).secondBuiltinExclusive h
  | activeConfig c d k _ hd => exact (sameView_activeConfig hd k).secondBuiltinExclusive h
  | freeMapInfo c m => exact (sameView_setMapInfo m).secondBuiltinExclusive h
  | hotplug c conn => exact (SameView.of_hwcDisplay (by simp) (by simp)).secondBuiltinExclusive h
  | refresh => exact (SameView.of_hwcDisplay (by simp) (by simp)).secondBuiltinExclusive h
  | ready | idle | uevent => exact (SameView.of_hwcDisplay rfl rfl).secondBuiltinExclusive h

theorem Effects.secondBuiltinExclusive (he : Effects lim false s t) (hs : s.Layout)
    (hr : s.primaryReady = true) (h : s.SecondBuiltinExclusive lim) :
    t.SecondBuiltinExclusive lim ∧ t.Layout ∧ t.primaryReady = true := by
  induction he with
  | refl => exact ⟨h, hs, hr⟩
  | tail _ he ih =>
      obtain ⟨h₁, h₂, h₃⟩ := ih
      exact ⟨he.secondBuiltinExclusive h₂ h₃ h₁, he.layout h₂, he.primaryReady h₃⟩

/-- From a reachable state where the primary is ready and the second builtin is exclusive,
every run whose `CreateVirtualDisplay` snapshots list at most one virtual display keeps it
exclusive. -/
theorem secondBuiltinExclusive_of_run {ops : List Op} (hs : Reachable lim s)
    (hr : s.primaryReady = true) (h : s.SecondBuiltinExclusive lim)
    (hops : ∀ op ∈ ops, op.singleVirtual = true) (ht : run lim ops s = some t) :
    t.SecondBuiltinExclusive lim :=
  ((run_effects ht fun op hop => .inr (hops op hop)).secondBuiltinExclusive hs.layout hr h).1

/-- After boot, the second builtin powered on, then a virtual display created. -/
theorem secondBuiltinExclusive_of_run_after_boot :
    Reachable lim4 bootState ∧ bootState.primaryReady = true ∧
      bootState.SecondBuiltinExclusive lim4 ∧
      (∀ op ∈ [.setPowerMode 3 2 .none, .createVirtualDisplay 1920 1080 0 factory60
        (some (bootDisplays ++ [⟨5, .virtual, false, true⟩]))], Op.singleVirtual op = true) ∧
      run lim4 [.setPowerMode 3 2 .none, .createVirtualDisplay 1920 1080 0 factory60
        (some (bootDisplays ++ [⟨5, .virtual, false, true⟩]))] bootState =
        some ((run lim4 [.setPowerMode 3 2 .none, .createVirtualDisplay 1920 1080 0 factory60
          (some (bootDisplays ++ [⟨5, .virtual, false, true⟩]))] bootState).get (by decide)) ∧
      ((run lim4 [.setPowerMode 3 2 .none, .createVirtualDisplay 1920 1080 0 factory60
          (some (bootDisplays ++ [⟨5, .virtual, false, true⟩]))] bootState).get
            (by decide)).SecondBuiltinExclusive lim4 :=
  ⟨reachable_bootState, by decide, by decide, by decide, (Option.some_get _).symm,
    secondBuiltinExclusive_of_run reachable_bootState (by decide) (by decide) (by decide)
      (Option.some_get _).symm⟩

/-! ## `SoleDisplayActive` in every reachable state with a builtin primary -/

namespace State

/-- Before the primary is ready `HandleConcurrency` does nothing, so every display keeps
the activation it was created with. -/
def ActiveBeforeReady (s : State) : Prop :=
  s.primaryReady = false → ∀ c, s.occupied c = true → s.displayActive c = true

/-- Every occupied pluggable slot is marked `kPluggable`. -/
def PluggableTyped (s : State) : Prop :=
  ∀ c ∈ s.mapInfoPluggable, s.occupied c = true → (s.mapInfo c).dispType = .pluggable

/-- What the proof of `SoleDisplayActive` carries along a run. -/
structure SoleActiveInvariant (lim : Limits) (s : State) : Prop where
  layout : s.Layout
  pluggableTyped : s.PluggableTyped
  activeBeforeReady : s.ActiveBeforeReady
  sole : s.SoleDisplayActive lim

end State

theorem soleDisplayActive_of_activeBeforeReady (h : s.ActiveBeforeReady)
    (hr : s.primaryReady = false) : s.SoleDisplayActive lim :=
  fun _ _ _ _ hx _ => h hr _ (State.occupied_of_present hx)

theorem handleConcurrency_of_not_ready (hr : s.primaryReady = false) :
    handleConcurrency lim c s = s := by
  simp [handleConcurrency, hr]

theorem Effect.pluggableIsPrimary (he : Effect lim l s t) :
    t.pluggableIsPrimary = s.pluggableIsPrimary := by
  cases he with
  | register f i d p => exact (registerCallback_registered f i d p s).pluggableIsPrimary
  | _ => simp

theorem Effect.activeBeforeReady (he : Effect lim l s t) (h : s.ActiveBeforeReady) :
    t.ActiveBeforeReady := by
  intro htr x hx
  cases he with
  | concurrency c =>
      have hr : s.primaryReady = false := by simpa using htr
      rw [handleConcurrency_of_not_ready hr] at hx ⊢
      exact h hr x hx
  | powerMode c d m _ hd =>
      have hr : s.primaryReady = false := by simpa using htr
      simp only [updateRefreshRateHint_displayActive, updateRefreshRateHint_occupied,
        handleConcurrency_of_not_ready (show (s.setDisplay c _).primaryReady = false from hr),
        s.setDisplay_occupied_of_some c hd { d with lastPowerMode := m },
        s.setDisplay_displayActive_of_some c hd { d with lastPowerMode := m } rfl] at hx ⊢
      exact h hr x hx
  | connect c d m _ _ _ hd | createVirtual c d m _ _ _ _ hd =>
      have hr : s.primaryReady = false := by simpa using htr
      simp only [handleConcurrency_of_not_ready (show ((s.setDisplay c _).setMapInfo c m).primaryReady = false from hr),
        State.setMapInfo_occupied, State.setMapInfo_displayActive] at hx ⊢
      by_cases hxc : x = c
      · subst hxc; simp [hd.1]
      · rw [State.setDisplay_occupied_of_ne _ _ _ hxc] at hx
        rw [State.setDisplay_displayActive_of_ne _ _ _ hxc]
        exact h hr x hx
  | disconnect c _ _ | destroy c _ _ =>
      have hr : s.primaryReady = false := by simpa using htr
      try simp only [handleConcurrency_of_not_ready (show ((s.setDisplay c none).setMapInfo c .reset).primaryReady = false from hr)] at hx ⊢
      simp only [State.setMapInfo_occupied, State.setMapInfo_displayActive] at hx ⊢
      by_cases hxc : x = c
      · subst hxc; simp at hx
      · rw [State.setDisplay_occupied_of_ne _ _ _ hxc] at hx
        rw [State.setDisplay_displayActive_of_ne _ _ _ hxc]
        exact h hr x hx
  | register f i d p =>
      have hreg := (registerCallback_registered f i d p s : Registered s (registerCallback lim f i d p s))
      have hr : s.primaryReady = false := hreg.primaryReady ▸ htr
      rcases hreg.slots x with ⟨he, -⟩ | ⟨-, -, -, d', he, ha, -⟩
      · simp only [State.occupied, State.displayActive, he] at hx ⊢
        exact h hr x hx
      · simp [State.displayActive, he, ha]
  | activeConfig c d k _ hd =>
      rw [s.setDisplay_occupied_of_some c hd _] at hx
      rw [s.setDisplay_displayActive_of_some c hd { d with activeConfig := k } rfl]
      exact h htr x hx
  | ready => simp at htr
  | freeMapInfo | hotplug | refresh | idle | uevent =>
    simpa using h (by simpa using htr) x (by simpa using hx)

/-- Outside pluggable-primary mode a pluggable slot is filled only with its
`disp_type` set to `kPluggable`. -/
theorem Effect.pluggableTyped (he : Effect lim l s t) (hcs : Consecutive s.pools)
    (hp : s.pluggableIsPrimary = false) (h : s.PluggableTyped) : t.PluggableTyped := by
  intro x hx hox
  have hpx : x ∈ s.mapInfoPluggable := by
    rwa [show t.mapInfoPluggable = s.mapInfoPluggable from congrArg (·.1) he.pools] at hx
  cases he with
  | concurrency c => simp only [handleConcurrency_occupied, handleConcurrency_mapInfo] at hox ⊢
                     exact h x hpx hox
  | powerMode c d m _ hd =>
      simp only [updateRefreshRateHint_occupied, updateRefreshRateHint_mapInfo,
        handleConcurrency_occupied, handleConcurrency_mapInfo, State.setDisplay_mapInfo,
        s.setDisplay_occupied_of_some c hd] at hox ⊢
      exact h x hpx hox
  | connect c d m _ hc =>
      simp only [handleConcurrency_occupied, handleConcurrency_mapInfo, State.setMapInfo_mapInfo,
        State.setMapInfo_occupied, State.setDisplay_mapInfo] at hox ⊢
      by_cases hxc : x = c
      · subst hxc
        rcases hc with ⟨-, hm⟩ | hv
        · simpa using hm hp
        · exact absurd hpx (hcs.not_mem_pluggable_of_mem_virtual hv)
      · rw [Function.update_noteq hxc]
        rw [State.setDisplay_occupied_of_ne _ _ _ hxc] at hox
        exact h x hpx hox
  | createVirtual c d m _ _ hc =>
      have hxc : x ≠ c := fun he => hcs.not_mem_pluggable_of_mem_virtual hc (he ▸ hpx)
      simp only [State.setMapInfo_mapInfo, State.setMapInfo_occupied, State.setDisplay_mapInfo,
        Function.update_noteq hxc, State.setDisplay_occupied_of_ne _ _ _ hxc] at hox ⊢
      exact h x hpx hox
  | disconnect c _ _ | destroy c _ _ =>
      try simp only [handleConcurrency_occupied, handleConcurrency_mapInfo] at hox ⊢
      simp only [State.setMapInfo_mapInfo, State.setMapInfo_occupied, State.setDisplay_mapInfo]
        at hox ⊢
      by_cases hxc : x = c
      · subst hxc; simp at hox
      · rw [Function.update_noteq hxc]
        rw [State.setDisplay_occupied_of_ne _ _ _ hxc] at hox
        exact h x hpx hox
  | freeMapInfo c m _ hfree =>
      simp only [State.setMapInfo_mapInfo, State.setMapInfo_occupied] at hox ⊢
      have hxc : x ≠ c := by rintro rfl; simp [hfree] at hox
      rw [Function.update_noteq hxc]
      exact h x hpx hox
  | register f i d p =>
      have hreg := (registerCallback_registered f i d p s : Registered s (registerCallback lim f i d p s))
      rcases hreg.slots x with ⟨he, hm⟩ | ⟨hb, -⟩
      · rw [hm]
        simp only [State.occupied, he] at hox
        exact h x hpx hox
      · exact absurd hb (hcs.not_mem_builtin_of_mem_pluggable hpx)
  | activeConfig c d k _ hd =>
      rw [s.setDisplay_occupied_of_some c hd _] at hox
      exact h x hpx hox
  | ready | idle | uevent => exact h x hpx hox
  | hotplug | refresh => simpa using h x hpx (by simpa using hox)

theorem Effect.soleDisplayActive (he : Effect lim l s t) (hs : s.Layout) (hpt : s.PluggableTyped) (hab : s.ActiveBeforeReady)
    (h : s.SoleDisplayActive lim) : t.SoleDisplayActive lim := by
  have hcs := hs.consecutive
  by_cases htr : t.primaryReady = true
  swap
  · exact soleDisplayActive_of_activeBeforeReady (he.activeBeforeReady hab) (by simpa using htr)
  cases he with
  | concurrency c => exact soleDisplayActive_handleConcurrency h
  | powerMode c d m _ hd =>
      have hr : s.primaryReady = true := by simpa using htr
      refine (SameView.of_hwcDisplay (updateRefreshRateHint_pools _)
        (updateRefreshRateHint_hwcDisplay _)).soleDisplayActive ?_
      by_cases hB : c = s.getNextBuiltinIndex
      · have hr' : (s.setDisplay c (some { d with lastPowerMode := m })).primaryReady = true := hr
        refine (handleConcurrency_next_builtin hr' ?_).2
        simp only [State.getNextBuiltinIndex,
          s.setDisplay_occupied_of_some c hd { d with lastPowerMode := m }]
        exact hB
      · exact soleDisplayActive_handleConcurrency ((sameView_powerMode hd m hB).soleDisplayActive h)
  | connect c d m _ hc hfree hd =>
      exact soleDisplayActive_handleConcurrency ((sameView_setMapInfo m).soleDisplayActive
        (soleDisplayActive_setDisplay_active (not_builtin_of_mem hcs (hc.imp_left (·.1))).1 hd.1 h))
  | createVirtual c d m _ _ hc hfree hd =>
      exact (sameView_setMapInfo m).soleDisplayActive
        (soleDisplayActive_setDisplay_active (hcs.not_mem_builtin_of_mem_virtual hc) hd.1 h)
  | disconnect c _ hc =>
      have hr : s.primaryReady = true := by simpa using htr
      obtain ⟨hnb, -⟩ := not_builtin_of_mem hcs hc
      by_cases hcE : c = s.extDispIdx ∨ c = s.virDispIdx
      · exact soleDisplayActive_handleConcurrency_vacated hr
          (not_builtin_of_mem (by simpa using hcs) (by simpa using hc)).2 (by simpa using hcE)
          (by simp)
      · rw [not_or] at hcE
        exact soleDisplayActive_handleConcurrency ((sameView_setMapInfo _).soleDisplayActive
          ((SameView.setDisplay hnb hcE.1 hcE.2 none).soleDisplayActive h))
  | destroy c _ hc ht =>
      refine (sameView_setMapInfo _).soleDisplayActive ?_
      by_cases ho : s.occupied c = true
      · have hc0 : c = hwcDisplayPrimary := hc.resolve_right fun hc => ht (hpt c hc ho)
        subst hc0
        exact (SameView.setDisplay hcs.zero_not_mem_builtin hcs.extDispIdx_ne_zero.symm
          hcs.virDispIdx_ne_zero.symm none).soleDisplayActive h
      · refine (SameView.of_hwcDisplay (s.setDisplay_pools c none) ?_).soleDisplayActive h
        funext x
        by_cases hxc : x = c
        · subst hxc; simp only [State.occupied, Option.isSome_iff_ne_none, not_not] at ho; simp [ho]
        · exact State.setDisplay_hwcDisplay_of_ne _ _ _ hxc
  | register f i d p =>
      have hreg := (registerCallback_registered f i d p s : Registered s (registerCallback lim f i d p s))
      cases hcc : s.clientConnected
      · refine SameView.soleDisplayActive ⟨?_, State.extDispIdx_eq_of_pools hreg.pools,
          State.virDispIdx_eq_of_pools hreg.pools, fun x hx => ?_⟩ h
        · rw [getSecondBuiltinStatus_eq_false (hreg.builtins_off hs.builtinsFree hcc),
            getSecondBuiltinStatus_eq_false fun c hc => by
              simp [State.poweredOn, hs.builtinsFree hcc c hc |> fun h => by
                simpa [State.occupied] using h]]
        · have hxb : x ∉ s.mapInfoBuiltin := by
            rcases hx with rfl | rfl
            exacts [hcs.extDispIdx_not_mem_builtin, hcs.virDispIdx_not_mem_builtin]
          rcases hreg.slots x with ⟨he, -⟩ | ⟨hb, -⟩
          · simp [State.present, State.occupied, State.displayActive, he]
          · exact absurd hb hxb
      · exact (SameView.of_hwcDisplay hreg.pools (hreg.hwcDisplay_eq hcc)).soleDisplayActive h
  | activeConfig c d k _ hd => exact (sameView_activeConfig hd k).soleDisplayActive h
  | freeMapInfo c m => exact (sameView_setMapInfo m).soleDisplayActive h
  | hotplug c conn => exact (SameView.of_hwcDisplay (by simp) (by simp)).soleDisplayActive h
  | refresh => exact (SameView.of_hwcDisplay (by simp) (by simp)).soleDisplayActive h
  | ready | idle | uevent => exact (SameView.of_hwcDisplay rfl rfl).soleDisplayActive h

theorem Effect.soleActiveInvariant (he : Effect lim l s t) (hp : s.pluggableIsPrimary = false)
    (h : s.SoleActiveInvariant lim) : t.SoleActiveInvariant lim :=
  ⟨he.layout h.layout, he.pluggableTyped h.layout.consecutive hp h.pluggableTyped,
    he.activeBeforeReady h.activeBeforeReady,
    he.soleDisplayActive h.layout h.pluggableTyped h.activeBeforeReady h.sole⟩

theorem Effects.pluggableIsPrimary (he : Effects lim l s t) :
    t.pluggableIsPrimary = s.pluggableIsPrimary := by
  induction he with
  | refl => rfl
  | tail _ h ih => exact h.pluggableIsPrimary.trans ih

theorem Effects.soleActiveInvariant (he : Effects lim l s t) (hp : s.pluggableIsPrimary = false)
    (h : s.SoleActiveInvariant lim) : t.SoleActiveInvariant lim := by
  induction he with
  | refl => exact h
  | tail hb h' ih => exact h'.soleActiveInvariant ((Effects.pluggableIsPrimary hb).trans hp) ih

/-- After `Init` only the primary's slot can be filled, with an active display. -/
theorem init_soleActiveInvariant {r : HwReport} {f : Factory} {i : Option (List HwDisplayInfo)}
    (h : init lim r f i = some s) : s.SoleActiveInvariant lim := by
  have hs := init_layout h
  unfold init at h
  dsimp only at h
  split_ifs at h
  obtain rfl := Option.some.inj h
  have he₀ : ∀ c, (State.empty (initSupportedDisplaySlots lim r)).hwcDisplay c = none :=
    fun _ => rfl
  have hr₀ : (State.empty (initSupportedDisplaySlots lim r)).primaryReady = false := rfl
  generalize State.empty (initSupportedDisplaySlots lim r) = e at he₀ hr₀ hs ⊢
  obtain ⟨-, -, hr, -, hd, h₀⟩ := createPrimaryDisplay_frame f i e
  have hab : (createPrimaryDisplay f i e).2.ActiveBeforeReady := fun _ c hc => by
    by_cases hc0 : c = hwcDisplayPrimary
    · subst hc0
      obtain ⟨d, hdc⟩ := Option.isSome_iff_exists.1 hc
      rcases h₀ d hdc with h | h
      · simp [he₀] at h
      · simp [State.displayActive, hdc, h.1]
    · simp [State.occupied, hd c hc0, he₀] at hc
  refine ⟨hs, fun c hc hoc => ?_, hab, soleDisplayActive_of_activeBeforeReady hab (hr.trans hr₀)⟩
  simp [State.occupied, hd c (hs.consecutive.ne_zero_of_mem_pluggable hc), he₀] at hoc

theorem Reachable.soleActiveInvariant (h : Reachable lim s) (hp : s.pluggableIsPrimary = false) :
    s.SoleActiveInvariant lim := by
  induction h with
  | init r f i s h => exact init_soleActiveInvariant h
  | step op _ h ih =>
      have he := step_effects h (.inl rfl)
      have hp' := (Effects.pluggableIsPrimary he).symm.trans hp
      exact Effects.soleActiveInvariant he hp' (ih hp')

theorem soleDisplayActive_of_reachable (h : Reachable lim s) (hp : s.pluggableIsPrimary = false) :
    s.SoleDisplayActive lim :=
  (h.soleActiveInvariant hp).sole

/-- With pluggable display `2` connected at boot and no virtual display, the second builtin
is off and the pluggable display is the only one of the two present: it is active. -/
theorem soleDisplayActive_of_reachable_pluggable_only :
    Reachable lim4 pluggableBootState ∧ pluggableBootState.pluggableIsPrimary = false ∧
      pluggableBootState.getSecondBuiltinStatus = false ∧
      pluggableBootState.present lim4 pluggableBootState.extDispIdx = true ∧
      pluggableBootState.present lim4 pluggableBootState.virDispIdx = false ∧
      pluggableBootState.displayActive pluggableBootState.extDispIdx = true :=
  have hr : Reachable lim4 pluggableBootState := reachable_of_bind (Option.some_get _).symm
  have hb : pluggableBootState.getSecondBuiltinStatus = false := by decide
  have hx : pluggableBootState.present lim4 pluggableBootState.extDispIdx = true := by decide
  have hy : pluggableBootState.present lim4 pluggableBootState.virDispIdx = false := by decide
  ⟨hr, by decide, hb, hx, hy,
    soleDisplayActive_of_reachable hr (by decide) hb _ _ (.inl ⟨rfl, rfl⟩) hx hy⟩

end HwcSession.Session
