import HwcSession.Session.Ops

/-!
# What the entry points do to the session

Every operation of `Ops.lean` is a sequence of a few kinds of change (`Effect`):
`HandleConcurrency` for one client id; a display's power mode set, handled and signalled
to the hint worker; a display created in a free pluggable or virtual slot and handled; a
virtual display created and not yet handled; a display destroyed, handled or not; a free
slot's `DisplayMapInfo` written; a `Hotplug` notification; a `Refresh(0)`; a callback registration; the
primary's first present; an idle signal; the test pattern values of a uevent; an active
config. `step_effects` says so for every operation, once, so that each invariant of the
session is proved once per kind of change and never by unfolding an entry point.

A virtual display created without `HandleConcurrency` is handled only at the end of
`CreateVirtualDisplay`, for the last slot created. The parameter `loose` of `Effect`
admits that change; a snapshot with at most one virtual entry never needs it
(`createVirtualDisplay_effects_single`).
-/

namespace HwcSession.Session

open HwcSession.Basic HwcSession.PowerHint

variable (lim : Limits)

/-- One change of the session that the operations are made of. -/
inductive Effect (loose : Bool) : State → State → Prop
  /-- `HandleConcurrency(c)`. -/
  | concurrency (c : Nat) (s : State) : Effect loose s (handleConcurrency lim c s)
  /-- A display's `SetPowerMode` succeeded: its mode, `HandleConcurrency`, and the
  refresh-rate signal. -/
  | powerMode (c : Nat) (d : HwcDisplay) (m : PowerMode) (s : State)
      (h : s.hwcDisplay c = some d) :
      Effect loose s (updateRefreshRateHint
        (handleConcurrency lim c (s.setDisplay c (some { d with lastPowerMode := m }))))
  /-- A new display in a free pluggable or virtual slot, then `HandleConcurrency` for it;
  outside pluggable-primary mode a pluggable slot is marked `kPluggable`. -/
  | connect (c : Nat) (d : HwcDisplay) (m : MapInfo) (s : State)
      (hc : c ∈ s.mapInfoPluggable ∧ (s.pluggableIsPrimary = false → m.dispType = .pluggable) ∨
        c ∈ s.mapInfoVirtual)
      (hfree : s.occupied c = false) (hd : d.active = true ∧ d.lastPowerMode = .off) :
      Effect loose s (handleConcurrency lim c ((s.setDisplay c (some d)).setMapInfo c m))
  /-- A new display in a free virtual slot, not yet handled. -/
  | createVirtual (c : Nat) (d : HwcDisplay) (m : MapInfo) (s : State) (hl : loose = true)
      (hc : c ∈ s.mapInfoVirtual) (hfree : s.occupied c = false)
      (hd : d.active = true ∧ d.lastPowerMode = .off) :
      Effect loose s ((s.setDisplay c (some d)).setMapInfo c m)
  /-- A pluggable or virtual slot emptied and reset, then `HandleConcurrency` for it. -/
  | disconnect (c : Nat) (s : State) (hc : c ∈ s.mapInfoPluggable ∨ c ∈ s.mapInfoVirtual) :
      Effect loose s (handleConcurrency lim c ((s.setDisplay c none).setMapInfo c .reset))
  /-- `DestroyNonPluggableDisplay` on the primary or on a pluggable slot whose `disp_type`
  is not `kPluggable`. -/
  | destroy (c : Nat) (s : State) (hc : c = hwcDisplayPrimary ∨ c ∈ s.mapInfoPluggable)
      (ht : (s.mapInfo c).dispType ≠ .pluggable) :
      Effect loose s ((s.setDisplay c none).setMapInfo c .reset)
  /-- The `DisplayMapInfo` of a free slot written. -/
  | freeMapInfo (c : Nat) (m : MapInfo) (s : State) (hfree : s.occupied c = false) :
      Effect loose s (s.setMapInfo c m)
  /-- `callbacks_.Hotplug(c, conn)`. -/
  | hotplug (c : Nat) (conn : Connection) (s : State) : Effect loose s (s.hotplug c conn)
  /-- `Refresh(0)`, the only refresh the slot logic asks for. -/
  | refresh (s : State) : Effect loose s (s.refresh 0)
  /-- `RegisterCallback(descriptor, pointer)`. -/
  | register (f : Factory) (i : Option (List HwDisplayInfo)) (d : Callback) (p : Bool)
      (s : State) : Effect loose s (registerCallback lim f i d p s)
  /-- The primary's first present. -/
  | ready (s : State) : Effect loose s { s with primaryReady := true }
  /-- `signalIdle()`. -/
  | idle (now : Nat) (s : State) :
      Effect loose s { s with powerHalHint := signalIdle now s.powerHalHint }
  /-- The `bpp=` and `pattern=` values of a hotplug uevent. -/
  | uevent (bpp pattern : Int) (s : State) :
      Effect loose s { s with hpdBpp := bpp, hpdPattern := pattern }
  /-- A display's active config set. -/
  | activeConfig (c : Nat) (d : HwcDisplay) (k : Nat) (s : State) (h : s.hwcDisplay c = some d) :
      Effect loose s (s.setDisplay c (some { d with activeConfig := k }))

/-- Any number of effects, in order. -/
abbrev Effects (loose : Bool) : State → State → Prop := Relation.ReflTransGen (Effect lim loose)

variable {lim}

/-! ## Frame lemmas of the building blocks -/

@[simp] theorem handleConcurrency_pools (c : Nat) (s : State) :
    (handleConcurrency lim c s).pools = s.pools := by
  obtain ⟨-, hb, hp, hv, -⟩ :=
    (handleConcurrency_activated c s : Activated _ s (handleConcurrency lim c s)).others
  simp only [State.pools, hb, hp, hv]

@[simp] theorem handleConcurrency_pluggableIsPrimary (c : Nat) (s : State) :
    (handleConcurrency lim c s).pluggableIsPrimary = s.pluggableIsPrimary :=
  (handleConcurrency_activated c s).others.2.2.2.2.2.2.1

@[simp] theorem handleConcurrency_occupied (c : Nat) (s : State) :
    (handleConcurrency lim c s).occupied = s.occupied :=
  (handleConcurrency_activated c s).occupied

@[simp] theorem handleConcurrency_poweredOn (c : Nat) (s : State) :
    (handleConcurrency lim c s).poweredOn = s.poweredOn :=
  (handleConcurrency_activated c s).poweredOn

@[simp] theorem handleConcurrency_clientConnected (c : Nat) (s : State) :
    (handleConcurrency lim c s).clientConnected = s.clientConnected :=
  (handleConcurrency_activated c s).others.2.2.2.2.2.1

@[simp] theorem handleConcurrency_primaryReady (c : Nat) (s : State) :
    (handleConcurrency lim c s).primaryReady = s.primaryReady :=
  (handleConcurrency_activated c s).others.2.2.2.2.1

@[simp] theorem handleConcurrency_mapInfo (c : Nat) (s : State) :
    (handleConcurrency lim c s).mapInfo = s.mapInfo :=
  (handleConcurrency_activated c s).others.1

@[simp] theorem handleConcurrency_refreshes (c : Nat) (s : State) :
    (handleConcurrency lim c s).refreshes = s.refreshes :=
  (handleConcurrency_activated c s).refreshes

@[simp] theorem handleConcurrency_powerHalHint (c : Nat) (s : State) :
    (handleConcurrency lim c s).powerHalHint = s.powerHalHint :=
  (handleConcurrency_activated c s).others.2.2.2.2.2.2.2.2.2.2.2.2

/-- `updateRefreshRateHint` only signals the worker. -/
theorem updateRefreshRateHint_eq (s : State) :
    updateRefreshRateHint s = { s with powerHalHint := (updateRefreshRateHint s).powerHalHint } := by
  unfold updateRefreshRateHint
  dsimp only
  split
  · split <;> rfl
  · rfl

@[simp] theorem updateRefreshRateHint_refreshes (s : State) :
    (updateRefreshRateHint s).refreshes = s.refreshes := by
  rw [updateRefreshRateHint_eq]

@[simp] theorem updateRefreshRateHint_pools (s : State) :
    (updateRefreshRateHint s).pools = s.pools := by
  rw [updateRefreshRateHint_eq]; rfl

@[simp] theorem updateRefreshRateHint_pluggableIsPrimary (s : State) :
    (updateRefreshRateHint s).pluggableIsPrimary = s.pluggableIsPrimary := by
  rw [updateRefreshRateHint_eq]

@[simp] theorem updateRefreshRateHint_hwcDisplay (s : State) :
    (updateRefreshRateHint s).hwcDisplay = s.hwcDisplay := by
  rw [updateRefreshRateHint_eq]

@[simp] theorem updateRefreshRateHint_occupied (s : State) :
    (updateRefreshRateHint s).occupied = s.occupied := by
  rw [updateRefreshRateHint_eq]; rfl

@[simp] theorem updateRefreshRateHint_poweredOn (s : State) :
    (updateRefreshRateHint s).poweredOn = s.poweredOn := by
  rw [updateRefreshRateHint_eq]; rfl

@[simp] theorem updateRefreshRateHint_displayActive (s : State) :
    (updateRefreshRateHint s).displayActive = s.displayActive := by
  rw [updateRefreshRateHint_eq]; rfl

@[simp] theorem updateRefreshRateHint_mapInfo (s : State) :
    (updateRefreshRateHint s).mapInfo = s.mapInfo := by
  rw [updateRefreshRateHint_eq]

@[simp] theorem updateRefreshRateHint_clientConnected (s : State) :
    (updateRefreshRateHint s).clientConnected = s.clientConnected := by
  rw [updateRefreshRateHint_eq]

@[simp] theorem updateRefreshRateHint_primaryReady (s : State) :
    (updateRefreshRateHint s).primaryReady = s.primaryReady := by
  rw [updateRefreshRateHint_eq]

theorem firstFreeSlot_spec {pool : List Nat} {s : State} {c : Nat}
    (h : firstFreeSlot pool s = some c) : c ∈ pool ∧ s.occupied c = false :=
  ⟨List.mem_of_find?_eq_some h, by simpa using List.find?_some h⟩

/-! ## `RegisterCallback` -/

/-- What `RegisterCallback` may do: a first hotplug registration fills builtin slots with
new displays, after which the client is connected; the pools, the flags of the primary
and the hint worker are untouched. -/
structure Registered (s t : State) : Prop where
  pools : t.pools = s.pools
  primaryReady : t.primaryReady = s.primaryReady
  pluggableIsPrimary : t.pluggableIsPrimary = s.pluggableIsPrimary
  powerHalHint : t.powerHalHint = s.powerHalHint
  clientConnected : s.clientConnected = true → t.clientConnected = true
  slots : ∀ c, (t.hwcDisplay c = s.hwcDisplay c ∧ t.mapInfo c = s.mapInfo c) ∨
    (c ∈ s.mapInfoBuiltin ∧ s.clientConnected = false ∧ t.clientConnected = true ∧
      ∃ d, t.hwcDisplay c = some d ∧ d.active = true ∧ d.lastPowerMode = .off)

/-- The builtin loop only writes slots of `pool`, each with a new display. -/
theorem createBuiltIns_fills (f : Factory) (pool : List Nat) :
    ∀ (k : Nat) (infos : List HwDisplayInfo) (s : State), ∃ hd mi,
      createBuiltIns f pool k infos s = { s with hwcDisplay := hd, mapInfo := mi } ∧
      ∀ c, (hd c = s.hwcDisplay c ∧ mi c = s.mapInfo c) ∨
        (c ∈ pool ∧ ∃ d, hd c = some d ∧ d.active = true ∧ d.lastPowerMode = .off)
  | _, [], s => ⟨s.hwcDisplay, s.mapInfo, rfl, fun _ => .inl ⟨rfl, rfl⟩⟩
  | k, info :: rest, s => by
      have keep : ∃ hd mi, s = { s with hwcDisplay := hd, mapInfo := mi } ∧
          ∀ c, (hd c = s.hwcDisplay c ∧ mi c = s.mapInfo c) ∨
            (c ∈ pool ∧ ∃ d, hd c = some d ∧ d.active = true ∧ d.lastPowerMode = .off) :=
        ⟨s.hwcDisplay, s.mapInfo, rfl, fun _ => .inl ⟨rfl, rfl⟩⟩
      unfold createBuiltIns
      split_ifs
      · exact createBuiltIns_fills f pool k rest s
      · split <;> exact keep
      split
      · exact keep
      rename_i c hc
      obtain ⟨hd, mi, he, hs⟩ := createBuiltIns_fills f pool (k + 1 + 1) rest _
      refine ⟨hd, mi, he, fun c' => ?_⟩
      rcases hs c' with ⟨h₁, h₂⟩ | h
      · by_cases hc' : c' = c
        · subst hc'
          exact .inr ⟨List.getElem?_mem hc, _, by simpa using h₁, rfl, rfl⟩
        · exact .inl ⟨h₁.trans (Function.update_noteq hc' _ _), h₂.trans (Function.update_noteq hc' _ _)⟩
      · exact .inr h

/-- The notification loop of `RegisterCallback` only sends notifications. -/
theorem notifyAll_eq (cs : List Nat) (s : State) :
    cs.foldl (fun s disp => if s.occupied disp then s.hotplug disp .connected else s) s =
      { s with hotplugs := (cs.foldl (fun s disp =>
          if s.occupied disp then s.hotplug disp .connected else s) s).hotplugs } := by
  induction cs generalizing s with
  | nil => rfl
  | cons c cs ih =>
      rw [List.foldl_cons, ih]
      split_ifs
      · unfold State.hotplug; split_ifs <;> rfl
      · rfl

theorem registerCallback_registered (f : Factory) (i : Option (List HwDisplayInfo)) (d : Callback)
    (p : Bool) (s : State) : Registered s (registerCallback lim f i d p s) := by
  have keep : ∀ x, Registered s { s with hotplugRegistered := x } :=
    fun _ => ⟨rfl, rfl, rfl, rfl, id, fun _ => .inl ⟨rfl, rfl⟩⟩
  unfold registerCallback
  by_cases hd : d = .hotplug
  swap
  · simpa only [hd, false_and, if_false] using ⟨rfl, rfl, rfl, rfl, id, fun _ => .inl ⟨rfl, rfl⟩⟩
  subst hd
  cases p
  · simpa only [Bool.false_eq_true, and_false, if_false, if_true] using keep false
  simp only [and_self, if_true]
  rw [notifyAll_eq]
  cases hcc : s.clientConnected
  · cases i with
    | none => exact ⟨rfl, rfl, rfl, rfl, fun _ => rfl, fun _ => .inl ⟨rfl, rfl⟩⟩
    | some infos =>
        obtain ⟨hd, mi, he', hslots⟩ := createBuiltIns_fills f s.mapInfoBuiltin 0 infos
          { s with hotplugRegistered := true, clientConnected := false }
        simp only [handleBuiltInDisplays, he', Bool.false_eq_true, not_false_eq_true, if_true]
        exact ⟨rfl, rfl, rfl, rfl, by simp, fun c => (hslots c).imp id fun h => ⟨h.1, hcc, rfl, h.2⟩⟩
  · simp only [not_true_eq_false, if_false]
    exact ⟨rfl, rfl, rfl, rfl, fun _ => rfl, fun _ => .inl ⟨rfl, rfl⟩⟩

theorem registerCallback_refreshes (f : Factory) (i : Option (List HwDisplayInfo)) (d : Callback)
    (p : Bool) (s : State) : (registerCallback lim f i d p s).refreshes = s.refreshes := by
  have hb : ∀ t : State, (handleBuiltInDisplays f i t).refreshes = t.refreshes := fun t => by
    cases i with
    | none => rfl
    | some infos =>
        obtain ⟨hd, mi, he, -⟩ := createBuiltIns_fills f t.mapInfoBuiltin 0 infos t
        simp only [handleBuiltInDisplays, he]
  unfold registerCallback
  dsimp only
  split_ifs <;> (try rw [notifyAll_eq]) <;> simp only [hb]

/-! ## Effects keep the pools -/

variable {l : Bool} {s t : State}

theorem Effect.pools (h : Effect lim l s t) : t.pools = s.pools := by
  cases h with
  | register f i d p => exact (registerCallback_registered f i d p s).pools
  | ready | idle | uevent => rfl
  | _ => simp

theorem Effects.pools (h : Effects lim l s t) : t.pools = s.pools := by
  induction h with
  | refl => rfl
  | tail _ h ih => exact h.pools.trans ih

/-- The only change an effect makes to the refresh log is a `Refresh(0)`. -/
theorem Effect.refreshes (h : Effect lim l s t) :
    t.refreshes = s.refreshes ∨ t.refreshes = 0 :: s.refreshes := by
  cases h with
  | refresh => exact .inr rfl
  | register f i d p => exact .inl (registerCallback_refreshes f i d p s)
  | ready | idle | uevent => exact .inl rfl
  | _ => exact .inl (by simp)

/-- Along a run of effects the refresh log only gains `Refresh(0)` calls. -/
theorem Effects.refreshes (h : Effects lim l s t) :
    ∃ new, t.refreshes = new ++ s.refreshes ∧ ∀ c ∈ new, c = 0 := by
  induction h with
  | refl => exact ⟨[], rfl, by simp⟩
  | tail _ h ih =>
      obtain ⟨new, hn, hz⟩ := ih
      rcases h.refreshes with he | he
      · exact ⟨new, he.trans hn, hz⟩
      · exact ⟨0 :: new, by rw [he, hn, List.cons_append], by simpa using hz⟩

/-! ## Every entry point is a run of effects -/

/-- A loop over client ids whose body is a run of effects that keeps `pool`. -/
theorem effects_foldl (g : State → Nat → State) (pool : State → List Nat)
    (hg : ∀ s c, c ∈ pool s → Effects lim l s (g s c) ∧ pool (g s c) = pool s) :
    ∀ (cs : List Nat) (s : State), (∀ c ∈ cs, c ∈ pool s) → Effects lim l s (cs.foldl g s)
  | [], _, _ => .refl
  | c :: cs, s, h => by
      obtain ⟨h₁, h₂⟩ := hg s c (h c (.head _))
      exact h₁.trans (effects_foldl g pool hg cs _ fun c' hc' => h₂ ▸ h c' (.tail _ hc'))

theorem destroyPluggableDisplay_effects (c : Nat) (s : State)
    (hc : c ∈ s.mapInfoPluggable ∨ c ∈ s.mapInfoVirtual ∨ s.pluggableIsPrimary = true) :
    Effects lim l s (destroyPluggableDisplay lim c s) := by
  unfold destroyPluggableDisplay
  cases hp : s.pluggableIsPrimary
  · have hc' : c ∈ s.mapInfoPluggable ∨ c ∈ s.mapInfoVirtual := by simpa [hp] using hc
    simp only [hp, Bool.false_eq_true, not_false_eq_true, if_true, if_false,
      State.refresh_pluggableIsPrimary, State.hotplug_pluggableIsPrimary]
    have h₀ : Effects lim l s ((s.hotplug c .disconnected).refresh 0) :=
      .tail (.single (.hotplug c _ s)) (.refresh _)
    split_ifs
    · exact h₀.tail (.disconnect c _ (by simpa using hc'))
    · exact h₀
  · simp only [hp, not_true_eq_false, if_false, if_true, ite_self, State.refresh_pluggableIsPrimary]
    exact .single (.refresh s)

theorem destroyNonPluggableDisplay_effects (c : Nat) (s : State)
    (hc : c = hwcDisplayPrimary ∨ c ∈ s.mapInfoPluggable)
    (ht : (s.mapInfo c).dispType ≠ .pluggable) :
    Effects lim l s (destroyNonPluggableDisplay c s) := by
  unfold destroyNonPluggableDisplay
  split_ifs
  · exact .single (.destroy c s hc ht)
  · exact .refl

theorem destroyDisplay_effects (c : Nat) (s : State)
    (hc : c ∈ s.mapInfoPluggable ∨ c = hwcDisplayPrimary ∧ s.pluggableIsPrimary = true) :
    Effects lim l s (destroyDisplay lim c (s.mapInfo c) s) := by
  unfold destroyDisplay
  split
  · exact destroyPluggableDisplay_effects c s (by tauto)
  · rename_i ht
    exact destroyNonPluggableDisplay_effects c s (by tauto) ht

theorem handleDisconnectedDisplays_effects (i : List HwDisplayInfo) (s : State) :
    Effects lim l s (handleDisconnectedDisplays lim i s) := by
  unfold handleDisconnectedDisplays
  have h₀ : Effects lim l s (if s.pluggableIsPrimary ∧ disconnected i (s.mapInfo hwcDisplayPrimary).sdmId
      then destroyDisplay lim hwcDisplayPrimary (s.mapInfo hwcDisplayPrimary) s else s) := by
    split_ifs with h
    · exact destroyDisplay_effects _ s (.inr ⟨rfl, h.1⟩)
    · exact .refl
  refine h₀.trans (effects_foldl _ State.mapInfoPluggable (fun s c hc => ?_) _ _ fun _ h => h)
  split_ifs
  · have h : Effects lim l s (destroyDisplay lim c (s.mapInfo c) s) :=
      destroyDisplay_effects c s (.inl hc)
    exact ⟨h, congrArg (·.1) h.pools⟩
  · exact ⟨.refl, rfl⟩

/-- The state an entry of a scan leaves, whatever its outcome. -/
def outcome {ε α : Type} : Except (ε × State) (α × State) → State
  | .ok r => r.2
  | .error e => e.2

theorem connectDisplay_effects (f : Factory) (info : HwDisplayInfo) (pending : List Nat)
    (s : State) : Effects lim l s (outcome (connectDisplay lim f info pending s)) := by
  unfold connectDisplay
  split
  · exact .refl
  dsimp only
  have h₀ : Effects lim l s (if s.pluggableIsPrimary then s.refresh 0 else s) := by
    split_ifs
    exacts [.single (.refresh s), .refl]
  generalize (if s.pluggableIsPrimary then s.refresh 0 else s) = s₁ at h₀ ⊢
  refine h₀.trans ?_
  split
  · exact .refl
  rename_i h₂
  split
  · exact .refl
  rename_i c hc
  obtain ⟨hmem, hfree⟩ := firstFreeSlot_spec hc
  split
  · exact .single (.freeMapInfo c _ s₁ hfree)
  · refine .tail (.single (.freeMapInfo c _ s₁ hfree))
      (.connect c _ _ _ (.inl ⟨hmem, fun hp => ?_⟩) hfree ⟨rfl, rfl⟩)
    by_contra ht
    exact h₂ ⟨Bool.eq_false_iff.1 hp, .inr (.inl ht)⟩

theorem connectDisplays_effects (f : Factory) :
    ∀ (infos : List HwDisplayInfo) (pending : List Nat) (s : State),
      Effects lim l s (outcome (connectDisplays lim f infos pending s))
  | [], _, _ => .refl
  | info :: rest, pending, s => by
      have h : Effects lim l s (outcome (connectDisplay lim f info pending s)) :=
        connectDisplay_effects f info pending s
      unfold connectDisplays
      split <;> rename_i he <;> rw [he] at h
      · exact h
      · exact h.trans (connectDisplays_effects f rest _ _)

theorem handleConnectedDisplays_effects (f : Factory) (infos : List HwDisplayInfo) (s : State) :
    Effects lim l s (handleConnectedDisplays lim f infos s).2 := by
  have h : Effects lim l s (outcome (connectDisplays lim f infos [] s)) :=
    connectDisplays_effects f infos [] s
  unfold handleConnectedDisplays
  split <;> rename_i he <;> rw [he] at h
  · exact h
  · exact h
  · exact (h.tail (.refresh _)).trans (effects_foldl _ (fun _ => _)
      (fun s c _ => ⟨.head (.hotplug c _ s) (.single (.concurrency c _)), rfl⟩) _ _ fun _ h => h)

theorem createPluggableDisplays_effects {f : Factory} {i : Option (List HwDisplayInfo)}
    {r : Int × State} (h : createPluggableDisplays lim f i s = some r) : Effects lim l s r.2 := by
  unfold createPluggableDisplays at h
  split_ifs at h
  · cases i with
    | none => obtain rfl := Option.some.inj h; exact .refl
    | some infos =>
        obtain rfl := Option.some.inj h
        exact (handleDisconnectedDisplays_effects _ s).trans (handleConnectedDisplays_effects _ _ _)
  · obtain rfl := Option.some.inj h
    exact .refl

theorem presentDisplay_effects {f : Factory} {i : Option (List HwDisplayInfo)} {display now : Nat}
    {st : Hwc2Error} {r : Hwc2Error × State} (h : presentDisplay lim f i display now st s = some r) :
    Effects lim l s r.2 := by
  unfold presentDisplay at h
  by_cases hk : lim.kNumDisplays ≤ display
  · rw [if_pos hk] at h
    obtain rfl := Option.some.inj h
    exact .refl
  rw [if_neg hk] at h
  have h₀ : Effects lim l s (if s.occupied display then
      (st, { s with powerHalHint := signalIdle now s.powerHalHint }) else (.badDisplay, s)).2 := by
    split_ifs
    · exact .single (.idle now s)
    · exact .refl
  generalize (if s.occupied display then
      (st, { s with powerHalHint := signalIdle now s.powerHalHint }) else (.badDisplay, s)) = p at h h₀
  dsimp only at h
  split_ifs at h
  · obtain rfl := Option.some.inj h
    exact h₀.tail (.ready _)
  · obtain ⟨r', hr', rfl⟩ := Option.map_eq_some'.1 h
    exact (h₀.tail (.ready _)).trans (createPluggableDisplays_effects hr')
  · obtain rfl := Option.some.inj h
    exact h₀

/-- In the slot logic only the primary's first present asks for refreshes, and then only
the `Refresh(0)`s of its hotplug scan. -/
theorem presentDisplay_refreshLog {f : Factory} {i : Option (List HwDisplayInfo)}
    {display now : Nat} {st : Hwc2Error} {r : Hwc2Error × State}
    (h : presentDisplay lim f i display now st s = some r) :
    ∃ new, r.2.refreshes = new ++ s.refreshes ∧ (∀ c ∈ new, c = 0) ∧
      (new ≠ [] → display = hwcDisplayPrimary ∧ s.primaryReady = false) := by
  obtain ⟨new, hn, hz⟩ := (presentDisplay_effects (l := true) h).refreshes
  refine ⟨new, hn, hz, fun hne => ?_⟩
  by_contra hc
  have hkeep : r.2.refreshes = s.refreshes := by
    unfold presentDisplay at h
    split at h
    · cases h; rfl
    generalize hp : (if s.occupied display then
      (st, { s with powerHalHint := signalIdle now s.powerHalHint }) else (.badDisplay, s)) = p at h
    have hp' : p.2.primaryReady = s.primaryReady ∧ p.2.refreshes = s.refreshes := by
      subst hp; split_ifs <;> exact ⟨rfl, rfl⟩
    obtain ⟨status, t⟩ := p
    dsimp only at h hp'
    rw [if_neg fun h' => hc ⟨h'.2, by simpa [hp'.1] using h'.1⟩] at h
    cases h
    exact hp'.2
  exact hne (List.append_left_eq_self.1 (hn.symm.trans hkeep))

theorem setPowerMode_effects (display : Nat) (intMode : Int) (displayStatus : Hwc2Error)
    (s : State) : Effects lim l s (setPowerMode lim display intMode displayStatus s).2 := by
  unfold setPowerMode
  dsimp only
  repeat' split
  all_goals first | exact .refl | exact .single (.powerMode _ _ _ s ‹_›)

theorem setActiveConfig_effects (display config : Nat) (s : State) :
    Effects lim l s (setActiveConfig lim display config s).2 := by
  unfold setActiveConfig
  repeat' split
  all_goals first | exact .refl | exact .single (.activeConfig _ _ _ s ‹_›)

theorem createVirtuals_effects (f : Factory) :
    ∀ (infos : List HwDisplayInfo) (out : Nat) (s : State),
      Effects lim true s (outcome (createVirtuals f infos out s))
  | [], _, _ => .refl
  | info :: rest, out, s => by
      unfold createVirtuals
      by_cases hv : info.displayType ≠ .virtual
      · rw [if_pos hv]
        exact createVirtuals_effects f rest out s
      rw [if_neg hv]
      split
      · exact createVirtuals_effects f rest out s
      rename_i c hc
      obtain ⟨hmem, hfree⟩ := firstFreeSlot_spec hc
      split_ifs
      · exact .refl
      · exact .head (.createVirtual c _ _ s rfl hmem hfree ⟨rfl, rfl⟩)
          (createVirtuals_effects f rest c _)

theorem createVirtualDisplayObj_effects (f : Factory) (i : Option (List HwDisplayInfo))
    (out : Nat) (s : State) : Effects lim true s (createVirtualDisplayObj f i out s).2.2 := by
  unfold createVirtualDisplayObj
  split_ifs
  · cases i with
    | none => exact .refl
    | some infos =>
        have h : Effects lim true s (outcome (createVirtuals f infos out s)) :=
          createVirtuals_effects f infos out s
        dsimp only
        split <;> rename_i he <;> rw [he] at h <;> exact h
  · exact .refl

theorem createVirtualDisplay_effects (f : Factory) (i : Option (List HwDisplayInfo))
    (width height out : Nat) (s : State) :
    Effects lim true s (createVirtualDisplay lim f i width height out s).2.2 := by
  unfold createVirtualDisplay
  split_ifs
  · exact .refl
  · exact (createVirtualDisplayObj_effects f i out s).tail (.concurrency _ _)

/-- Without a virtual entry the loop of `CreateVirtualDisplayObj` does nothing. -/
theorem createVirtuals_of_forall_ne (f : Factory) :
    ∀ (infos : List HwDisplayInfo) (out : Nat) (s : State),
      (∀ info ∈ infos, info.displayType ≠ .virtual) → createVirtuals f infos out s = .ok (out, s)
  | [], _, _, _ => rfl
  | info :: rest, out, s, h => by
      rw [createVirtuals, if_pos (h info (.head _))]
      exact createVirtuals_of_forall_ne f rest out s fun i hi => h i (.tail _ hi)

/-- With at most one virtual entry, the loop of `CreateVirtualDisplayObj` creates at most
one display, in a free virtual slot, and leaves that slot in `*out_display_id`. -/
theorem createVirtuals_single (f : Factory) :
    ∀ (infos : List HwDisplayInfo) (out : Nat) (s : State),
      (infos.filter (·.displayType = .virtual)).length ≤ 1 →
      createVirtuals f infos out s = .ok (out, s) ∨ createVirtuals f infos out s = .error (out, s) ∨
      ∃ c d m, c ∈ s.mapInfoVirtual ∧ s.occupied c = false ∧
        (d.active = true ∧ d.lastPowerMode = .off) ∧
        createVirtuals f infos out s = .ok (c, (s.setDisplay c (some d)).setMapInfo c m)
  | [], _, _, _ => .inl rfl
  | info :: rest, out, s, h => by
      by_cases hv : info.displayType = .virtual
      · have hrest : ∀ i ∈ rest, i.displayType ≠ .virtual := by
          simpa [List.filter_cons, hv, List.filter_eq_nil_iff] using h
        rw [createVirtuals, if_neg (not_not.2 hv)]
        split
        · exact .inl (createVirtuals_of_forall_ne f rest out s hrest)
        rename_i c hc
        obtain ⟨hmem, hfree⟩ := firstFreeSlot_spec hc
        dsimp only
        split_ifs
        · exact .inr (.inl rfl)
        · exact .inr (.inr ⟨c, _, _, hmem, hfree, ⟨rfl, rfl⟩,
            createVirtuals_of_forall_ne f rest c _ hrest⟩)
      · rw [createVirtuals, if_pos hv]
        exact createVirtuals_single f rest out s (by simpa [List.filter_cons, hv] using h)

/-- The operation is not a `CreateVirtualDisplay` whose snapshot lists several virtual
displays. -/
def Op.singleVirtual : Op → Bool
  | .createVirtualDisplay _ _ _ _ (some infos) =>
      decide ((infos.filter (·.displayType = .virtual)).length ≤ 1)
  | _ => true

/-- With at most one virtual entry, `CreateVirtualDisplayObj` creates at most one display,
in a free virtual slot, and leaves that slot in `*out_display_id`. -/
theorem createVirtualDisplayObj_single (f : Factory) (i : Option (List HwDisplayInfo))
    (width height out : Nat) (s : State)
    (hi : (Op.createVirtualDisplay width height out f i).singleVirtual = true) :
    (createVirtualDisplayObj f i out s).2 = (out, s) ∨
      ∃ c d m, c ∈ s.mapInfoVirtual ∧ s.occupied c = false ∧
        (d.active = true ∧ d.lastPowerMode = .off) ∧
        (createVirtualDisplayObj f i out s).2 = (c, (s.setDisplay c (some d)).setMapInfo c m) := by
  unfold createVirtualDisplayObj
  split_ifs
  · cases i with
    | none => exact .inl rfl
    | some infos =>
        simp only [Op.singleVirtual, decide_eq_true_eq] at hi
        dsimp only
        rcases createVirtuals_single f infos out s hi with he | he | ⟨c, d, m, hmem, hfree, hd, he⟩
        · rw [he]; exact .inl rfl
        · rw [he]; exact .inl rfl
        · rw [he]; exact .inr ⟨c, d, m, hmem, hfree, hd, rfl⟩
  · exact .inl rfl

/-- A snapshot with at most one virtual entry: `CreateVirtualDisplay` handles the display
it creates. -/
theorem createVirtualDisplay_effects_single (f : Factory) (i : Option (List HwDisplayInfo))
    (width height out : Nat) (s : State)
    (hi : (Op.createVirtualDisplay width height out f i).singleVirtual = true) :
    Effects lim l s (createVirtualDisplay lim f i width height out s).2.2 := by
  unfold createVirtualDisplay
  split_ifs
  · exact .refl
  rcases createVirtualDisplayObj_single f i width height out s hi with
    he | ⟨c, d, m, hmem, hfree, hd, he⟩ <;>
    generalize createVirtualDisplayObj f i out s = x at he ⊢ <;> obtain ⟨st, o, t⟩ := x <;> cases he
  · exact .single (.concurrency _ _)
  · exact .single (.connect c d m s (.inr hmem) hfree hd)

theorem destroyVirtualDisplay_effects (display : Nat) (s : State) :
    Effects lim l s (destroyVirtualDisplay lim display s).2 := by
  unfold destroyVirtualDisplay
  split_ifs with h₁ h₂
  · exact .refl
  · unfold destroyDisplay
    split
    · exact (destroyPluggableDisplay_effects display s (.inr (.inl h₂))).tail (.concurrency _ _)
    · unfold destroyNonPluggableDisplay
      split_ifs
      · exact .single (.disconnect display s (.inr h₂))
      · exact .single (.concurrency _ _)
  · exact .refl

theorem hotplugEvent_effects {f : Factory} {i : Option (List HwDisplayInfo)} {bpp pattern : Int}
    (h : hotplugEvent lim f i bpp pattern s = some t) : Effects lim l s t := by
  obtain ⟨r, hr, rfl⟩ := Option.map_eq_some'.1 h
  exact .head (.uevent bpp pattern s) (createPluggableDisplays_effects hr)

/-- Every operation is a run of effects; one without several virtual entries in a
`CreateVirtualDisplay` snapshot never leaves a virtual display unhandled. -/
theorem step_effects {op : Op} (h : step lim op s = some t) (hl : l = true ∨ op.singleVirtual) :
    Effects lim l s t := by
  cases op with
  | registerCallback d p f i =>
      obtain rfl := Option.some.inj h
      exact .single (.register f i d p s)
  | presentDisplay d now st f i =>
      obtain ⟨r, hr, rfl⟩ := Option.map_eq_some'.1 h
      exact presentDisplay_effects hr
  | setPowerMode d m st =>
      obtain rfl := Option.some.inj h
      exact setPowerMode_effects d m st s
  | setActiveConfig d c =>
      obtain rfl := Option.some.inj h
      exact setActiveConfig_effects d c s
  | createVirtualDisplay w hh o f i =>
      obtain rfl := Option.some.inj h
      rcases hl with rfl | hl
      · exact createVirtualDisplay_effects f i w hh o s
      · exact createVirtualDisplay_effects_single f i w hh o s hl
  | destroyVirtualDisplay d =>
      obtain rfl := Option.some.inj h
      exact destroyVirtualDisplay_effects d s
  | hotplugEvent b p f i => exact hotplugEvent_effects h

theorem run_effects : ∀ {ops : List Op} {s t : State}, run lim ops s = some t →
    (∀ op ∈ ops, l = true ∨ op.singleVirtual = true) → Effects lim l s t
  | [], _, _, h, _ => Option.some.inj h ▸ .refl
  | op :: _, _, _, h, hops => by
      obtain ⟨s', hs', h'⟩ := Option.bind_eq_some.1 h
      exact (step_effects hs' (hops op (.head _))).trans
        (run_effects h' fun op' h'' => hops op' (.tail _ h''))

end HwcSession.Session
