import HwcSession.Session.SlotTable

/-!
# `Deinit`: tearing the session down

`Deinit` runs `DestroyDisplay` on the primary's slot and then on every slot of the
builtin, pluggable and virtual pools, in that order. `Close` calls it, and so does `Init`
when the primary cannot be created.

A display object only ever sits in the primary's slot or in a pool slot
(`Reachable.inTable`), and with a builtin primary `DestroyDisplay` empties the slot it is
given whatever its `disp_type` (`destroyDisplay_occupied`). With a pluggable primary it does
not: `DestroyPluggableDisplay` then only refreshes and calls `SetState(false)` on the primary.

## Main results

* `deinit_empties`: in every reachable state with a builtin primary, `Deinit` leaves every
  slot of `hwc_display_` empty.
* `deinit_keeps_pluggable_primary`: with a pluggable primary whose slot is marked
  `kPluggable`, `Deinit` leaves the primary's display object where it was.
-/

namespace HwcSession.Session

open HwcSession.Basic

variable (lim : Limits)

/-- `DestroyDisplay(&map_info)` for every slot of `pool`, in order. -/
def destroyPool (pool : List Nat) (s : State) : State :=
  pool.foldl (fun s clientId => destroyDisplay lim clientId (s.mapInfo clientId) s) s

/-- `Deinit()`. What it releases after the displays (the colour manager, the uevent
listener's registration, the core) is not part of the model. -/
def deinit (s : State) : State :=
  let s := destroyDisplay lim hwcDisplayPrimary (s.mapInfo hwcDisplayPrimary) s
  let s := destroyPool lim s.mapInfoBuiltin s
  let s := destroyPool lim s.mapInfoPluggable s
  destroyPool lim s.mapInfoVirtual s

/-- Every display object sits in the primary's slot or in a slot of a pool. -/
def State.InTable (s : State) : Prop :=
  ∀ c, s.occupied c = true →
    c = hwcDisplayPrimary ∨ c ∈ s.mapInfoBuiltin ∨ c ∈ s.mapInfoPluggable ∨ c ∈ s.mapInfoVirtual

variable {lim} {s t : State} {l : Bool}

/-! ## Displays stay in the table -/

theorem State.InTable.of_occupied (h : s.InTable) (hp : t.pools = s.pools)
    (ho : ∀ c, t.occupied c = true → s.occupied c = true) : t.InTable := by
  intro c hc
  have hb : t.mapInfoBuiltin = s.mapInfoBuiltin := congrArg (·.2.1) hp
  have hpl : t.mapInfoPluggable = s.mapInfoPluggable := congrArg (·.1) hp
  have hv : t.mapInfoVirtual = s.mapInfoVirtual := congrArg (·.2.2) hp
  rw [hb, hpl, hv]
  exact h c (ho c hc)

theorem Effect.inTable (he : Effect lim l s t) (h : s.InTable) : t.InTable := by
  have hp := he.pools
  have hb : t.mapInfoBuiltin = s.mapInfoBuiltin := congrArg (·.2.1) hp
  have hpl : t.mapInfoPluggable = s.mapInfoPluggable := congrArg (·.1) hp
  have hv : t.mapInfoVirtual = s.mapInfoVirtual := congrArg (·.2.2) hp
  cases he with
  | powerMode c d m _ hd | activeConfig c d m _ hd =>
    refine h.of_occupied hp fun x hx => ?_
    by_cases hxc : x = c
    · subst hxc; simp [State.occupied, hd]
    · simpa [State.setDisplay_occupied_of_ne _ _ _ hxc] using hx
  | connect c d m _ hc | createVirtual c d m _ _ hc =>
    intro x hx
    rw [hb, hpl, hv]
    by_cases hxc : x = c
    · subst hxc; tauto
    · exact h x (by simpa [State.setDisplay_occupied_of_ne _ _ _ hxc] using hx)
  | disconnect c _ _ | destroy c _ _ _ =>
    refine h.of_occupied hp fun x hx => ?_
    by_cases hxc : x = c
    · subst hxc; simp at hx
    · simpa [State.setDisplay_occupied_of_ne _ _ _ hxc] using hx
  | register f i d p =>
    intro x hx
    rw [hb, hpl, hv]
    rcases (registerCallback_registered f i d p s).slots x with ⟨hd, -⟩ | ⟨hxb, -⟩
    · rw [State.occupied, hd] at hx
      exact h x hx
    · exact .inr (.inl hxb)
  | _ => exact h.of_occupied hp fun x hx => by simpa using hx

theorem Effects.inTable (he : Effects lim l s t) (h : s.InTable) : t.InTable := by
  induction he with
  | refl => exact h
  | tail _ h' ih => exact h'.inTable ih

theorem init_inTable {r : HwReport} {f : Factory} {i : Option (List HwDisplayInfo)}
    (h : init lim r f i = some s) : s.InTable := by
  unfold init at h
  dsimp only at h
  split_ifs at h
  obtain rfl := Option.some.inj h
  obtain ⟨-, -, -, -, hd, -⟩ :=
    createPrimaryDisplay_frame f i (State.empty (initSupportedDisplaySlots lim r))
  intro c hc
  by_cases h0 : c = hwcDisplayPrimary
  · exact .inl h0
  · rw [State.occupied, hd c h0] at hc
    cases hc

/-- In every reachable state a display object sits in the primary's slot or a pool slot. -/
theorem Reachable.inTable (h : Reachable lim s) : s.InTable := by
  induction h with
  | init r f i s h => exact init_inTable h
  | step op _ h ih => exact (step_effects h (.inl rfl)).inTable ih

/-! ## What `Deinit` destroys -/

theorem destroyDisplay_pools (c : Nat) (m : MapInfo) :
    (destroyDisplay lim c m s).pools = s.pools := by
  unfold destroyDisplay destroyPluggableDisplay destroyNonPluggableDisplay
  split <;> (try dsimp only) <;> split_ifs <;> simp

theorem destroyPool_cons (c : Nat) (pool : List Nat) (s : State) :
    destroyPool lim (c :: pool) s = destroyPool lim pool (destroyDisplay lim c (s.mapInfo c) s) :=
  rfl

theorem destroyPool_pools : ∀ (pool : List Nat) (s : State),
    (destroyPool lim pool s).pools = s.pools
  | [], _ => rfl
  | c :: pool, _ => (destroyPool_pools pool _).trans (destroyDisplay_pools c _)

theorem destroyPool_pluggableIsPrimary : ∀ (pool : List Nat) (s : State),
    (destroyPool lim pool s).pluggableIsPrimary = s.pluggableIsPrimary
  | [], _ => rfl
  | c :: pool, _ =>
    (destroyPool_pluggableIsPrimary pool _).trans (destroyDisplay_pluggableIsPrimary c _)

/-- With a pluggable primary, `DestroyDisplay` changes no slot but its own: a pluggable
slot's object is only told `SetState(false)`. -/
theorem destroyDisplay_hwcDisplay_of_ne (hp : s.pluggableIsPrimary = true) {c x : Nat}
    (m : MapInfo) (hxc : x ≠ c) : (destroyDisplay lim c m s).hwcDisplay x = s.hwcDisplay x := by
  unfold destroyDisplay destroyPluggableDisplay destroyNonPluggableDisplay
  split <;> (try dsimp only) <;> split_ifs <;> simp_all [Function.update_noteq hxc]

theorem destroyPool_hwcDisplay_of_not_mem {x : Nat} : ∀ {pool : List Nat} {s : State},
    s.pluggableIsPrimary = true → x ∉ pool →
      (destroyPool lim pool s).hwcDisplay x = s.hwcDisplay x
  | [], _, _, _ => rfl
  | c :: pool, s, hp, hx => by
    rw [destroyPool_cons, destroyPool_hwcDisplay_of_not_mem
        ((destroyDisplay_pluggableIsPrimary c _).trans hp) (fun h => hx (.tail _ h)),
      destroyDisplay_hwcDisplay_of_ne hp _ (fun h => hx (by simp [h]))]

/-- With a builtin primary, a pass over `pool` empties exactly the slots of `pool`. -/
theorem destroyPool_occupied (x : Nat) : ∀ (pool : List Nat) (s : State),
    s.pluggableIsPrimary = false →
      (destroyPool lim pool s).occupied x = (s.occupied x && !decide (x ∈ pool))
  | [], _, _ => by simp [destroyPool]
  | c :: pool, s, hp => by
    have hp' : (destroyDisplay lim c (s.mapInfo c) s).pluggableIsPrimary = false :=
      (destroyDisplay_pluggableIsPrimary c _).trans hp
    rw [destroyPool_cons, destroyPool_occupied x pool _ hp', destroyDisplay_occupied hp]
    by_cases hxc : x = c <;> simp [hxc]

/-- With a builtin primary, `Deinit` empties the primary's slot and every pool slot, and no
other. -/
theorem deinit_occupied (hp : s.pluggableIsPrimary = false) (x : Nat) :
    (deinit lim s).occupied x =
      (s.occupied x && !decide (x = hwcDisplayPrimary ∨ x ∈ s.mapInfoBuiltin ∨
        x ∈ s.mapInfoPluggable ∨ x ∈ s.mapInfoVirtual)) := by
  set s₁ := destroyDisplay lim hwcDisplayPrimary (s.mapInfo hwcDisplayPrimary) s
  set s₂ := destroyPool lim s₁.mapInfoBuiltin s₁
  set s₃ := destroyPool lim s₂.mapInfoPluggable s₂
  have hp₁ : s₁.pluggableIsPrimary = false := (destroyDisplay_pluggableIsPrimary _ _).trans hp
  have hp₂ : s₂.pluggableIsPrimary = false := (destroyPool_pluggableIsPrimary _ _).trans hp₁
  have hp₃ : s₃.pluggableIsPrimary = false := (destroyPool_pluggableIsPrimary _ _).trans hp₂
  have h₁ : s₁.pools = s.pools := destroyDisplay_pools _ _
  have h₂ : s₂.pools = s.pools := (destroyPool_pools _ _).trans h₁
  have h₃ : s₃.pools = s.pools := (destroyPool_pools _ _).trans h₂
  have hb : s₁.mapInfoBuiltin = s.mapInfoBuiltin := congrArg (·.2.1) h₁
  have hpl : s₂.mapInfoPluggable = s.mapInfoPluggable := congrArg (·.1) h₂
  have hv : s₃.mapInfoVirtual = s.mapInfoVirtual := congrArg (·.2.2) h₃
  show (destroyPool lim s₃.mapInfoVirtual s₃).occupied x = _
  rw [destroyPool_occupied x _ _ hp₃, destroyPool_occupied x _ _ hp₂,
    destroyPool_occupied x _ _ hp₁, destroyDisplay_occupied hp, hb, hpl, hv]
  by_cases h0 : x = hwcDisplayPrimary <;> simp [h0, Bool.and_assoc]

/-- In every reachable state with a builtin primary, `Deinit` leaves no display object in
any slot of `hwc_display_`. -/
theorem deinit_empties (hs : Reachable lim s) (hp : s.pluggableIsPrimary = false) (x : Nat) :
    (deinit lim s).occupied x = false := by
  rw [deinit_occupied hp]
  cases ho : s.occupied x
  · rfl
  · rw [Bool.true_and, Bool.not_eq_false', decide_eq_true_eq]
    exact hs.inTable x ho

/-- `bootState`'s second builtin display, in client id `3`, is destroyed. -/
theorem deinit_empties_builtin :
    bootState.pluggableIsPrimary = false ∧ bootState.occupied 3 = true ∧
      (deinit lim4 bootState).occupied 3 = false :=
  ⟨by decide, by decide, deinit_empties reachable_bootState (by decide) 3⟩

/-- With a pluggable primary whose slot is marked `kPluggable`, `DestroyDisplay` on it is
only `SetState(false)`, and the rest of `Deinit` never touches slot `0`: the primary's
display object survives `Deinit`. -/
theorem deinit_keeps_pluggable_primary (hl : Consecutive s.pools)
    (hp : s.pluggableIsPrimary = true)
    (ht : (s.mapInfo hwcDisplayPrimary).dispType = .pluggable) :
    (deinit lim s).hwcDisplay hwcDisplayPrimary = s.hwcDisplay hwcDisplayPrimary := by
  have h₁ : destroyDisplay lim hwcDisplayPrimary (s.mapInfo hwcDisplayPrimary) s = s.refresh 0 := by
    simp [destroyDisplay, destroyPluggableDisplay, ht, hp]
  set s₂ := destroyPool lim (s.refresh 0).mapInfoBuiltin (s.refresh 0)
  set s₃ := destroyPool lim s₂.mapInfoPluggable s₂
  have hp₂ : s₂.pluggableIsPrimary = true := (destroyPool_pluggableIsPrimary _ _).trans hp
  have hp₃ : s₃.pluggableIsPrimary = true := (destroyPool_pluggableIsPrimary _ _).trans hp₂
  have hl₂ : Consecutive s₂.pools := by rw [destroyPool_pools]; exact hl
  have hl₃ : Consecutive s₃.pools := by rw [destroyPool_pools]; exact hl₂
  calc (deinit lim s).hwcDisplay hwcDisplayPrimary
      = (destroyPool lim s₃.mapInfoVirtual s₃).hwcDisplay hwcDisplayPrimary := by
        simp only [deinit, h₁, s₂, s₃]
    _ = s₃.hwcDisplay hwcDisplayPrimary :=
        destroyPool_hwcDisplay_of_not_mem hp₃ fun h => hl₃.ne_zero_of_mem_virtual h rfl
    _ = s₂.hwcDisplay hwcDisplayPrimary :=
        destroyPool_hwcDisplay_of_not_mem hp₂ fun h => hl₂.ne_zero_of_mem_pluggable h rfl
    _ = s.hwcDisplay hwcDisplayPrimary :=
        destroyPool_hwcDisplay_of_not_mem hp hl.zero_not_mem_builtin

/-- `Init` with a connected pluggable primary. -/
def pluggableBoot : State :=
  (init lim4 ⟨some .pluggable, some 2, some 2, some 1⟩ factory60
    (some [⟨0, .pluggable, true, true⟩])).get (by decide)

theorem deinit_keeps_pluggable_primary_boot :
    pluggableBoot.occupied hwcDisplayPrimary = true ∧
      (deinit lim4 pluggableBoot).hwcDisplay hwcDisplayPrimary =
        pluggableBoot.hwcDisplay hwcDisplayPrimary :=
  ⟨by decide, deinit_keeps_pluggable_primary
    (Reachable.init _ _ _ _ (Option.some_get _).symm).layout.consecutive (by decide) (by decide)⟩

end HwcSession.Session
