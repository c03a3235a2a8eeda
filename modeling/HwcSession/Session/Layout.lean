import HwcSession.Session.Effects

/-!
# The slot layout along a run

`InitSupportedDisplaySlots` lays the pools out once: consecutive client ids from
`DISPLAY_EXTERNAL`, the pluggable pool first, then the builtin and the virtual pool. No
effect changes the pools (`Effect.pools`), so every reachable state keeps that layout, and
a pluggable or virtual slot, the first pluggable slot and the first virtual slot are never
builtin slots. A change at such a slot leaves `GetSecondBuiltinStatus` alone
(`getSecondBuiltinStatus_setDisplay`).

The builtin pool is filled only by the client's first hotplug registration, which then
marks the client connected: before it, every builtin slot is free (`State.BuiltinsFree`).

The pool sizes are `UINT32(std::min(max, kNum))` after the primary's own kind has been
decremented. With a maximum of at least `1` for that kind every pool fits its limit and
`is_hdr_display_` covers every client id (`initSupportedDisplaySlots_fits`); a maximum of
`0` gives a pool of `2 ^ 32 - 1` slots (`initSupportedDisplaySlots_own_max_zero`).
-/

namespace HwcSession.Session

open HwcSession.Basic

/-- The pools of `InitSupportedDisplaySlots`: `p` pluggable, `b` builtin and `v` virtual
slots with consecutive client ids from `DISPLAY_EXTERNAL`, in that order, each count a
`UINT32`. -/
def Consecutive (pools : List Nat × List Nat × List Nat) : Prop :=
  ∃ p b v, p < 2 ^ 32 ∧ b < 2 ^ 32 ∧ v < 2 ^ 32 ∧
    pools = (List.range' 1 p, List.range' (1 + p) b, List.range' (1 + p + b) v)

theorem slotCount_lt (max : Int) (kNum : Nat) : slotCount max kNum < 2 ^ 32 := by
  have h₁ := Int.emod_lt_of_pos (min max kNum) (by norm_num : (0 : Int) < 2 ^ 32)
  have h₂ := Int.emod_nonneg (min max kNum) (by norm_num : (2 : Int) ^ 32 ≠ 0)
  unfold slotCount
  omega

theorem initSupportedDisplaySlots_consecutive (lim : Limits) (r : HwReport) :
    Consecutive (initSupportedDisplaySlots lim r) := by
  unfold initSupportedDisplaySlots
  split
  · exact ⟨_, _, _, slotCount_lt _ _, slotCount_lt _ _, slotCount_lt _ _, rfl⟩
  · exact ⟨0, 0, 0, by norm_num, by norm_num, by norm_num, rfl⟩

/-! ## The pool sizes

`InitSupportedDisplaySlots` decrements the maximum of the primary's own kind before it
takes the minimum with the `kNum` limit, and casts that minimum to `uint32_t`. A maximum of
`0` for the primary's kind becomes `-1`, and `UINT32(-1)` slots are laid out. -/

theorem slotCount_of_nonneg {max : Int} {kNum : Nat} (h0 : 0 ≤ max) (hk : kNum < 2 ^ 32) :
    slotCount max kNum = min max.toNat kNum := by
  unfold slotCount
  rw [Int.emod_eq_of_lt (le_min h0 (Int.ofNat_nonneg _)) (by omega)]
  omega

theorem slotCount_neg_one (kNum : Nat) : slotCount (-1) kNum = 2 ^ 32 - 1 := by
  unfold slotCount
  rw [min_eq_left (by omega)]
  rfl

theorem initSupportedDisplaySlots_own_max_zero (lim : Limits) (mb mp mv : Int) :
    (initSupportedDisplaySlots lim ⟨some .builtIn, some 0, some mp, some mv⟩).2.1.length =
        2 ^ 32 - 1 ∧
      (initSupportedDisplaySlots lim ⟨some .pluggable, some mb, some 0, some mv⟩).1.length =
        2 ^ 32 - 1 ∧
      isHdrDisplaySize lim ⟨some .builtIn, some 0, some mp, some mv⟩ =
        (slotCount mp lim.kNumPluggable + slotCount mv lim.kNumVirtual) % 2 ^ 32 := by
  simp only [isHdrDisplaySize, initSupportedDisplaySlots, List.length_range', if_true,
    if_false, reduceCtorEq, zero_sub, slotCount_neg_one, true_and]
  omega

/-- With nonnegative maxima, at least `1` for the primary's kind, and the `int` limits of
`HWCCallbacks`, each pool fits its `kNum` limit, the client ids are distinct, nonzero and
below `kNumDisplays`, and `is_hdr_display_` has one entry more than the largest client id. -/
theorem initSupportedDisplaySlots_fits (lim : Limits) (hlim : lim.kNumDisplays < 2 ^ 31)
    (t : DisplayType) (mb mp mv : Int) (hb : 0 ≤ mb) (hp : 0 ≤ mp) (hv : 0 ≤ mv)
    (hown : 1 ≤ if t = .pluggable then mp else mb) :
    let pools := initSupportedDisplaySlots lim ⟨some t, some mb, some mp, some mv⟩
    pools.1.length ≤ lim.kNumPluggable ∧ pools.2.1.length ≤ lim.kNumBuiltIn ∧
      pools.2.2.length ≤ lim.kNumVirtual ∧ (pools.1 ++ pools.2.1 ++ pools.2.2).Nodup ∧
      (∀ c ∈ pools.1 ++ pools.2.1 ++ pools.2.2, 0 < c ∧ c < lim.kNumDisplays) ∧
      isHdrDisplaySize lim ⟨some t, some mb, some mp, some mv⟩ =
        1 + pools.1.length + pools.2.1.length + pools.2.2.length := by
  have hfit := lim.pools_fit
  have hpc : slotCount (if t = .pluggable then mp - 1 else mp) lim.kNumPluggable ≤
      lim.kNumPluggable := by
    split_ifs at hown ⊢ <;> rw [slotCount_of_nonneg (by omega) (by omega)] <;> omega
  have hbc : slotCount (if t = .pluggable then mb else mb - 1) lim.kNumBuiltIn ≤
      lim.kNumBuiltIn := by
    split_ifs at hown ⊢ <;> rw [slotCount_of_nonneg (by omega) (by omega)] <;> omega
  have hvc : slotCount mv lim.kNumVirtual ≤ lim.kNumVirtual := by
    rw [slotCount_of_nonneg hv (by omega)]
    omega
  simp only [isHdrDisplaySize, initSupportedDisplaySlots, List.length_range']
  refine ⟨hpc, hbc, hvc, ?_, fun c hc => ?_, Nat.mod_eq_of_lt (by omega)⟩
  · rw [List.nodup_append, List.nodup_append]
    refine ⟨⟨List.nodup_range' _ _, List.nodup_range' _ _, ?_⟩, List.nodup_range' _ _, ?_⟩ <;>
      intro x hx hy <;> simp only [List.mem_append, List.mem_range'_1] at hx hy <;> omega
  · simp only [List.mem_append, List.mem_range'_1] at hc
    omega

/-- `HWCCallbacks`' four slots of each kind, and a builtin primary reported with two
builtin, two pluggable and one virtual display. -/
theorem initSupportedDisplaySlots_fits_four :
    (⟨4, 4, 4, 13, by decide⟩ : Limits).kNumDisplays < 2 ^ 31 ∧ (0 : Int) ≤ 2 ∧ (0 : Int) ≤ 2 ∧
      (0 : Int) ≤ 1 ∧ (1 : Int) ≤ (if DisplayType.builtIn = .pluggable then 2 else 2) ∧
      let lim : Limits := ⟨4, 4, 4, 13, by decide⟩
      let pools := initSupportedDisplaySlots lim ⟨some .builtIn, some 2, some 2, some 1⟩
      pools.1.length ≤ lim.kNumPluggable ∧ pools.2.1.length ≤ lim.kNumBuiltIn ∧
        pools.2.2.length ≤ lim.kNumVirtual ∧ (pools.1 ++ pools.2.1 ++ pools.2.2).Nodup ∧
        (∀ c ∈ pools.1 ++ pools.2.1 ++ pools.2.2, 0 < c ∧ c < lim.kNumDisplays) ∧
        isHdrDisplaySize lim ⟨some .builtIn, some 2, some 2, some 1⟩ =
          1 + pools.1.length + pools.2.1.length + pools.2.2.length :=
  ⟨by decide, by decide, by decide, by decide, by decide,
    initSupportedDisplaySlots_fits _ (by decide) .builtIn 2 2 1 (by decide) (by decide) (by decide)
      (by decide)⟩

namespace Consecutive

variable {s : State} (h : Consecutive s.pools)
include h

theorem not_mem_builtin_of_mem_pluggable {c : Nat} (hc : c ∈ s.mapInfoPluggable) :
    c ∉ s.mapInfoBuiltin := by
  obtain ⟨p, b, v, -, -, -, he⟩ := h
  simp only [State.pools, Prod.mk.injEq] at he
  simp only [he.1, he.2.1, List.mem_range'_1] at hc ⊢
  omega

theorem not_mem_builtin_of_mem_virtual {c : Nat} (hc : c ∈ s.mapInfoVirtual) :
    c ∉ s.mapInfoBuiltin := by
  obtain ⟨p, b, v, -, -, -, he⟩ := h
  simp only [State.pools, Prod.mk.injEq] at he
  simp only [he.2.1, he.2.2, List.mem_range'_1] at hc ⊢
  omega

theorem not_mem_pluggable_of_mem_virtual {c : Nat} (hc : c ∈ s.mapInfoVirtual) :
    c ∉ s.mapInfoPluggable := by
  obtain ⟨p, b, v, -, -, -, he⟩ := h
  simp only [State.pools, Prod.mk.injEq] at he
  simp only [he.1, he.2.2, List.mem_range'_1] at hc ⊢
  omega

theorem zero_not_mem_builtin : hwcDisplayPrimary ∉ s.mapInfoBuiltin := by
  obtain ⟨p, b, v, -, -, -, he⟩ := h
  simp only [State.pools, Prod.mk.injEq] at he
  simp only [he.2.1, List.mem_range'_1, hwcDisplayPrimary]
  omega

/-- The first pluggable slot, or `(hwc2_display_t)-1` when the pool is empty. -/
theorem extDispIdx_mem : s.extDispIdx ∈ s.mapInfoPluggable ∨ s.extDispIdx = 2 ^ 64 - 1 := by
  obtain ⟨p, b, v, -, -, -, he⟩ := h
  simp only [State.pools, Prod.mk.injEq] at he
  simp only [State.extDispIdx, State.getDisplayIndex_external, he.1]
  rcases p with _ | p
  · exact .inr toDisplayId_neg_one
  · exact .inl (by simp [List.range'_succ, toDisplayId])

/-- The first virtual slot, or `(hwc2_display_t)-1` when the pool is empty. -/
theorem virDispIdx_mem : s.virDispIdx ∈ s.mapInfoVirtual ∨ s.virDispIdx = 2 ^ 64 - 1 := by
  obtain ⟨p, b, v, hp, hb, -, he⟩ := h
  simp only [State.pools, Prod.mk.injEq] at he
  simp only [State.virDispIdx, State.getDisplayIndex_virtual, he.2.2]
  rcases v with _ | v
  · exact .inr toDisplayId_neg_one
  · left
    rw [List.range'_succ, List.head?_cons, Option.map_some', Option.getD_some, Int.ofNat_eq_coe,
      toDisplayId_of_nonneg (by omega) (by omega), Int.toNat_natCast]
    simp

theorem builtin_lt {c : Nat} (hc : c ∈ s.mapInfoBuiltin) : c < 2 ^ 64 - 1 := by
  obtain ⟨p, b, v, hp, hb, -, he⟩ := h
  simp only [State.pools, Prod.mk.injEq] at he
  simp only [he.2.1, List.mem_range'_1] at hc
  omega

theorem ne_zero_of_mem_pluggable {c : Nat} (hc : c ∈ s.mapInfoPluggable) : c ≠ 0 := by
  obtain ⟨p, b, v, -, -, -, he⟩ := h
  simp only [State.pools, Prod.mk.injEq] at he
  simp only [he.1, List.mem_range'_1] at hc
  omega

theorem ne_zero_of_mem_virtual {c : Nat} (hc : c ∈ s.mapInfoVirtual) : c ≠ 0 := by
  obtain ⟨p, b, v, -, -, -, he⟩ := h
  simp only [State.pools, Prod.mk.injEq] at he
  simp only [he.2.2, List.mem_range'_1] at hc
  omega

theorem extDispIdx_ne_zero : s.extDispIdx ≠ 0 :=
  (h.extDispIdx_mem).elim h.ne_zero_of_mem_pluggable fun he => by rw [he]; decide

theorem virDispIdx_ne_zero : s.virDispIdx ≠ 0 :=
  (h.virDispIdx_mem).elim h.ne_zero_of_mem_virtual fun he => by rw [he]; decide

theorem extDispIdx_not_mem_builtin : s.extDispIdx ∉ s.mapInfoBuiltin := fun hc =>
  (h.extDispIdx_mem).elim (h.not_mem_builtin_of_mem_pluggable · hc)
    fun he => absurd (he ▸ h.builtin_lt hc) (lt_irrefl _)

theorem virDispIdx_not_mem_builtin : s.virDispIdx ∉ s.mapInfoBuiltin := fun hc =>
  (h.virDispIdx_mem).elim (h.not_mem_builtin_of_mem_virtual · hc)
    fun he => absurd (he ▸ h.builtin_lt hc) (lt_irrefl _)

end Consecutive

/-! ## The second builtin -/

theorem find?_congr_of_mem {α : Type} {p q : α → Bool} :
    ∀ {l : List α}, (∀ x ∈ l, p x = q x) → l.find? p = l.find? q
  | [], _ => rfl
  | a :: l, h => by
      simp only [List.find?_cons, h a (.head _), find?_congr_of_mem fun x hx => h x (.tail _ hx)]

namespace State

theorem getNextBuiltinIndex_mem (s : State) :
    s.getNextBuiltinIndex ∈ s.mapInfoBuiltin ∨ s.getNextBuiltinIndex = 0 := by
  unfold getNextBuiltinIndex
  cases h : s.mapInfoBuiltin.find? s.occupied with
  | none => exact .inr rfl
  | some c => exact .inl (List.mem_of_find?_eq_some h)

/-- `GetSecondBuiltinStatus` reads the occupancy of the builtin slots and the power mode of
the first occupied one. -/
theorem getSecondBuiltinStatus_congr {s t : State} (hb : t.mapInfoBuiltin = s.mapInfoBuiltin)
    (ho : ∀ c ∈ s.mapInfoBuiltin, t.occupied c = s.occupied c)
    (hp : s.getNextBuiltinIndex ∈ s.mapInfoBuiltin →
      t.poweredOn s.getNextBuiltinIndex = s.poweredOn s.getNextBuiltinIndex) :
    t.getSecondBuiltinStatus = s.getSecondBuiltinStatus := by
  have hn : t.getNextBuiltinIndex = s.getNextBuiltinIndex := by
    simp only [getNextBuiltinIndex, hb, find?_congr_of_mem ho]
  unfold getSecondBuiltinStatus
  rw [hn]
  rcases s.getNextBuiltinIndex_mem with hm | hz
  · rw [hp hm]
  · simp [hz]

/-- A display put in or taken out of a slot outside the builtin pool does not change
`GetSecondBuiltinStatus`. -/
theorem getSecondBuiltinStatus_setDisplay (s : State) {c : Nat} (d : Option HwcDisplay)
    (hc : c ∉ s.mapInfoBuiltin) :
    (s.setDisplay c d).getSecondBuiltinStatus = s.getSecondBuiltinStatus :=
  getSecondBuiltinStatus_congr rfl
    (fun _ hx => setDisplay_occupied_of_ne s c d (ne_of_mem_of_not_mem hx hc))
    (fun hx => setDisplay_poweredOn_of_ne s c d (ne_of_mem_of_not_mem hx hc))

/-- Before the client's first hotplug registration no builtin slot holds a display. -/
def BuiltinsFree (s : State) : Prop :=
  s.clientConnected = false → ∀ c ∈ s.mapInfoBuiltin, s.occupied c = false

/-- What every reachable state keeps of `Init`'s slot layout. -/
structure Layout (s : State) : Prop where
  consecutive : Consecutive s.pools
  builtinsFree : s.BuiltinsFree

end State

/-! ## What a registration does to the builtin pool -/

/-- A registration by a client already connected changes no display. -/
theorem Registered.hwcDisplay_eq {s t : State} (hr : Registered s t)
    (hcc : s.clientConnected = true) : t.hwcDisplay = s.hwcDisplay := by
  funext c
  rcases hr.slots c with ⟨h, -⟩ | ⟨-, h, -⟩
  · exact h
  · simp [hcc] at h

/-- The first registration leaves every builtin slot empty or off. -/
theorem Registered.builtins_off {s t : State} (hr : Registered s t) (hs : s.BuiltinsFree)
    (hcc : s.clientConnected = false) : ∀ c ∈ t.mapInfoBuiltin, t.poweredOn c = false := by
  intro c hc
  rw [show t.mapInfoBuiltin = s.mapInfoBuiltin from congrArg (·.2.1) hr.pools] at hc
  rcases hr.slots c with ⟨h, -⟩ | ⟨-, -, -, d, h, -, hoff⟩
  · have ho := hs hcc c hc
    simp only [State.poweredOn, h]
    cases hd : s.hwcDisplay c
    · rfl
    · simp [State.occupied, hd] at ho
  · simp [State.poweredOn, h, hoff]

/-! ## Effects keep the layout -/

variable {lim : Limits} {l : Bool} {s t : State}

theorem Effect.clientConnected (he : Effect lim l s t) (h : s.clientConnected = true) :
    t.clientConnected = true := by
  cases he with
  | register f i d p => exact (registerCallback_registered f i d p s).clientConnected h
  | _ => simpa using h

/-- A builtin slot is filled only by the first hotplug registration. -/
theorem Effect.builtin_occupied (he : Effect lim l s t) (hs : Consecutive s.pools) {c : Nat}
    (hc : c ∈ s.mapInfoBuiltin) (ht : t.occupied c = true) :
    s.occupied c = true ∨ t.clientConnected = true := by
  cases he with
  | register f i d p =>
      rcases (registerCallback_registered f i d p s).slots c with ⟨h, -⟩ | ⟨-, -, h, -⟩
      · left
        simp only [State.occupied] at ht ⊢
        rwa [← h]
      · exact .inr h
  | powerMode c' d m _ h =>
      left
      by_cases hcc : c = c'
      · subst hcc; simp [State.occupied, h]
      · simpa [State.setDisplay_occupied_of_ne _ _ _ hcc] using ht
  | connect c' d m _ hc' =>
      have hne : c ≠ c' := by
        rintro rfl
        rcases hc' with ⟨hc', -⟩ | hc'
        · exact hs.not_mem_builtin_of_mem_pluggable hc' hc
        · exact hs.not_mem_builtin_of_mem_virtual hc' hc
      left
      simpa [State.setDisplay_occupied_of_ne _ _ _ hne] using ht
  | createVirtual c' d m _ _ hc' =>
      have hne : c ≠ c' := by
        rintro rfl
        exact hs.not_mem_builtin_of_mem_virtual hc' hc
      left
      simpa [State.setDisplay_occupied_of_ne _ _ _ hne] using ht
  | disconnect c' _ hc' | destroy c' _ hc' =>
      have hne : c ≠ c' := by
        rintro rfl
        rcases hc' with hc' | hc'
        · first
            | exact hs.zero_not_mem_builtin (hc' ▸ hc)
            | exact hs.not_mem_builtin_of_mem_pluggable hc' hc
        · first
            | exact hs.not_mem_builtin_of_mem_virtual hc' hc
            | exact hs.not_mem_builtin_of_mem_pluggable hc' hc
      left
      simpa [State.setDisplay_occupied_of_ne _ _ _ hne] using ht
  | activeConfig c' d k _ h =>
      left
      by_cases hcc : c = c'
      · subst hcc; simp [State.occupied, h]
      · simpa [State.setDisplay_occupied_of_ne _ _ _ hcc] using ht
  | _ => exact .inl (by simpa using ht)

theorem Effect.layout (he : Effect lim l s t) (hs : s.Layout) : t.Layout := by
  refine ⟨he.pools ▸ hs.consecutive, fun htc c hc => ?_⟩
  have hb : t.mapInfoBuiltin = s.mapInfoBuiltin := congrArg (·.2.1) he.pools
  have hsc : s.clientConnected = false := by
    cases h : s.clientConnected
    · rfl
    · simpa [htc] using he.clientConnected h
  rw [hb] at hc
  cases ht : t.occupied c
  · rfl
  rcases he.builtin_occupied hs.consecutive hc ht with h | h
  · simp [hs.builtinsFree hsc c hc] at h
  · simp [htc] at h

theorem Effects.layout (he : Effects lim l s t) (hs : s.Layout) : t.Layout := by
  induction he with
  | refl => exact hs
  | tail _ h ih => exact h.layout ih

/-! ## Every reachable state keeps `Init`'s layout -/

/-- `CreatePrimaryDisplay` fills at most the primary's slot, with a new display. -/
theorem createPrimaryDisplay_frame (f : Factory) (i : Option (List HwDisplayInfo)) (s : State) :
    (createPrimaryDisplay f i s).2.pools = s.pools ∧
      (createPrimaryDisplay f i s).2.clientConnected = s.clientConnected ∧
      (createPrimaryDisplay f i s).2.primaryReady = s.primaryReady ∧
      (createPrimaryDisplay f i s).2.powerHalHint = s.powerHalHint ∧
      (∀ c ≠ hwcDisplayPrimary, (createPrimaryDisplay f i s).2.hwcDisplay c = s.hwcDisplay c) ∧
      ∀ d, (createPrimaryDisplay f i s).2.hwcDisplay hwcDisplayPrimary = some d →
        s.hwcDisplay hwcDisplayPrimary = some d ∨ (d.active = true ∧ d.lastPowerMode = .off) := by
  unfold createPrimaryDisplay
  dsimp only
  repeat' split
  all_goals
    first
      | exact ⟨rfl, rfl, rfl, rfl, fun _ _ => rfl, fun _ h => .inl h⟩
      | refine ⟨rfl, rfl, rfl, rfl, fun _ hc => Function.update_noteq hc _ _, fun d h => .inr ?_⟩
        simp only [State.setMapInfo_hwcDisplay, State.setDisplay_hwcDisplay,
          Function.update_same, Option.some.injEq] at h
        rw [← h]
        exact ⟨rfl, rfl⟩

theorem init_layout {r : HwReport} {f : Factory} {i : Option (List HwDisplayInfo)}
    (h : init lim r f i = some s) : s.Layout := by
  unfold init at h
  dsimp only at h
  split_ifs at h
  obtain rfl := Option.some.inj h
  obtain ⟨hp, -, -, -, hd, -⟩ :=
    createPrimaryDisplay_frame f i (State.empty (initSupportedDisplaySlots lim r))
  have hs : Consecutive (createPrimaryDisplay f i (State.empty (initSupportedDisplaySlots lim r))).2.pools :=
    hp ▸ initSupportedDisplaySlots_consecutive lim r
  refine ⟨hs, fun _ c hc => ?_⟩
  rw [State.occupied, hd c (fun h₀ => hs.zero_not_mem_builtin (h₀ ▸ hc))]
  rfl

theorem Reachable.layout (h : Reachable lim s) : s.Layout := by
  induction h with
  | init r f i s h => exact init_layout h
  | step op _ h ih => exact (step_effects h (.inl rfl)).layout ih

end HwcSession.Session
