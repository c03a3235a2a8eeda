import HwcSession.PowerHint.Frame
import HwcSession.Session.SlotTable
import HwcSession.Session.Effects
import HwcSession.Session.Layout

/-!
# The refresh rate the worker is told about

`updateRefreshRateHint` is the session's only way to tell the hint worker about the
primary display. `SetPowerMode` calls it after every successful power change of any
display; it passes on the primary's last power mode and
`static_cast<uint_t>(GetVsyncPeriod(HWC_DISPLAY_PRIMARY))`, and `GetVsyncPeriod` reads the
vsync period of configuration `0`, whichever configuration is active. `SetActiveConfig`
sends nothing.

The session and the worker's thread run side by side: `Served` holds of the states reached
from `Init` by operations and `Routine` rounds in any order. Against a service that
accepts every call and supports every mode:

* `prevRefreshRate_of_served`: once the worker has processed every signal, while the
  primary is `On`, `mPrevRefreshRate` is the rate of the primary's configuration `0`;
* `stale_after_active_config`: it is not the rate of the active configuration once
  `SetActiveConfig` has moved the primary off configuration `0`.
-/

namespace HwcSession.PowerHint

open HwcSession.Basic

/-! ## The worker against a service that accepts everything -/

namespace PowerHalHintWorker

/-- No refresh rate is cached as unsupported. -/
def NoUnsupportedRate (w : PowerHalHintWorker) : Prop :=
  ∀ r, w.refreshRateHintSupportMap r ≠ some false

/-- The `mPrevRefreshRate` a round of `Routine` leaves when every call succeeds: the rate of
a signalled `On`, `0` for another signalled mode, the old value when nothing was
signalled. -/
def settledRate (w : PowerHalHintWorker) : Int :=
  if w.needUpdateRefreshRateHint then
    if w.powerModeState = .on then refreshRateOf w.vsyncPeriod else 0
  else w.prevRefreshRate

end PowerHalHintWorker

/-- `w'` is `w` after worker methods that left `mPrevRefreshRate` at `prev`, did not touch
the update flag, and cached no rate as unsupported. -/
structure Settled (prev : Int) (w w' : PowerHalHintWorker) : Prop where
  needUpdate : w'.needUpdateRefreshRateHint = w.needUpdateRefreshRateHint
  prevRefreshRate : w'.prevRefreshRate = prev
  supported : w'.NoUnsupportedRate

variable {w w₁ w₂ : PowerHalHintWorker} {p q : Int}

theorem Settled.trans (h₁ : Settled p w w₁) (h₂ : Settled q w₁ w₂) : Settled q w w₂ :=
  ⟨h₂.needUpdate.trans h₁.needUpdate, h₂.prevRefreshRate, h₂.supported⟩

theorem checkPowerHalExtHintSupport_settled (hal : PowerHal) (h : w.NoUnsupportedRate) (m : Hint) :
    Settled w.prevRefreshRate w (checkPowerHalExtHintSupport hal m w).2 := by
  unfold checkPowerHalExtHintSupport
  dsimp only
  split <;> exact ⟨rfl, rfl, h⟩

theorem checkIdleHintSupport_settled (hal : PowerHal) (h : w.NoUnsupportedRate) :
    Settled w.prevRefreshRate w (checkIdleHintSupport hal w).2 := by
  have hc := checkPowerHalExtHintSupport_settled hal h .displayIdle
  unfold checkIdleHintSupport
  split
  · exact ⟨rfl, rfl, h⟩
  · dsimp only
    split
    · exact ⟨hc.needUpdate, hc.prevRefreshRate, hc.supported⟩
    · split
      · exact ⟨hc.needUpdate, hc.prevRefreshRate, hc.supported⟩
      · exact hc

/-- The idle hint update leaves the refresh rate members alone, whatever the service
answers. -/
theorem updateIdleHint_settled (hal : PowerHal) (h : w.NoUnsupportedRate) (deadlineTime now : Nat) :
    Settled w.prevRefreshRate w (updateIdleHint hal deadlineTime now w).2 := by
  have h₁ := checkIdleHintSupport_settled hal h
  unfold updateIdleHint
  dsimp only
  split
  · exact h₁
  · split
    · have h₂ : Settled w.prevRefreshRate w (sendPowerHalExtHint hal .displayIdle
          (decide (deadlineTime < now)) (checkIdleHintSupport hal w).2).2 :=
        ⟨h₁.needUpdate, h₁.prevRefreshRate, h₁.supported⟩
      split
      · exact ⟨h₂.needUpdate, h₂.prevRefreshRate, h₂.supported⟩
      · exact h₂
    · exact h₁

theorem sendRefreshRateHint_allOk (r : Int) (b : Bool) (w : PowerHalHintWorker) :
    sendRefreshRateHint .allOk r b w = (noError, w.record (.setMode (.refresh r) b .ok)) := by
  simp [sendRefreshRateHint, sendPowerHalExtHint, PowerHal.allOk, statusOf]

theorem checkRefreshRateHintSupport_allOk (h : w.NoUnsupportedRate) (r : Int) :
    (checkRefreshRateHintSupport .allOk r w).1 = noError ∧
      Settled w.prevRefreshRate w (checkRefreshRateHintSupport .allOk r w).2 := by
  unfold checkRefreshRateHintSupport
  cases hm : w.refreshRateHintSupportMap r with
  | none =>
      simp only [checkPowerHalExtHintSupport, PowerHal.allOk, true_or, if_true, true_and]
      refine ⟨rfl, rfl, fun r' => ?_⟩
      by_cases hr : r' = r
      · subst hr; simp
      · simpa [Function.update_noteq hr] using h r'
  | some b =>
      obtain rfl : b = true := by simpa using fun hb : b = false => h r (hb ▸ hm)
      exact ⟨rfl, rfl, rfl, h⟩

theorem switchRefreshRateHint_allOk (h : w.NoUnsupportedRate) (r : Int) :
    (switchRefreshRateHint .allOk r w).1 = noError ∧
      Settled r w (switchRefreshRateHint .allOk r w).2 := by
  unfold switchRefreshRateHint
  simp only [sendRefreshRateHint_allOk, ne_eq, not_true_eq_false, if_false]
  split_ifs <;> exact ⟨rfl, rfl, rfl, h⟩

theorem disableRefreshRateHint_allOk (h : w.NoUnsupportedRate) :
    (disableRefreshRateHint .allOk w).1 = noError ∧
      Settled 0 w (disableRefreshRateHint .allOk w).2 := by
  unfold disableRefreshRateHint
  split_ifs with hp
  · simp only [sendRefreshRateHint_allOk, if_true, true_and]
    exact ⟨rfl, rfl, h⟩
  · exact ⟨rfl, rfl, not_not.1 hp, h⟩

theorem enableRefreshRateHint_allOk (h : w.NoUnsupportedRate) (v : Nat) :
    (enableRefreshRateHint .allOk v w).1 = noError ∧
      Settled (refreshRateOf v) w (enableRefreshRateHint .allOk v w).2 := by
  unfold enableRefreshRateHint
  dsimp only
  split_ifs with hp hc
  · exact ⟨rfl, rfl, hp, h⟩
  · exact absurd (checkRefreshRateHintSupport_allOk h _).1 hc
  · obtain ⟨-, h₂⟩ := checkRefreshRateHintSupport_allOk h (refreshRateOf v)
    obtain ⟨h₃, h₄⟩ := switchRefreshRateHint_allOk h₂.supported (refreshRateOf v)
    exact ⟨h₃, h₂.trans h₄⟩

theorem updateRefreshRateHintInternal_allOk (h : w.NoUnsupportedRate) (m : PowerMode) (v : Nat) :
    (updateRefreshRateHintInternal .allOk m v w).1 = noError ∧
      Settled (if m = .on then refreshRateOf v else 0) w
        (updateRefreshRateHintInternal .allOk m v w).2 := by
  have go : ∀ w', w'.NoUnsupportedRate →
      (if m ≠ .on then disableRefreshRateHint .allOk w' else enableRefreshRateHint .allOk v w').1 =
        noError ∧ Settled (if m = .on then refreshRateOf v else 0) w'
          (if m ≠ .on then disableRefreshRateHint .allOk w' else enableRefreshRateHint .allOk v w').2 := by
    intro w' h'
    by_cases hm : m = .on
    · simpa [hm] using enableRefreshRateHint_allOk h' v
    · simpa [hm] using disableRefreshRateHint_allOk h'
  unfold updateRefreshRateHintInternal
  dsimp only
  by_cases hp : w.pendingPrevRefreshRate ≠ 0
  · rw [if_pos hp, sendRefreshRateHint_allOk]
    dsimp only
    rw [if_pos rfl]
    obtain ⟨h₁, h₂⟩ := go { w.record (.setMode (.refresh w.pendingPrevRefreshRate) false .ok) with
      pendingPrevRefreshRate := 0 } h
    exact ⟨h₁, h₂.needUpdate, h₂.prevRefreshRate, h₂.supported⟩
  · rw [if_neg hp]
    exact go w h

/-- One round of `Routine` against a service that accepts everything clears the update flag
and leaves `mPrevRefreshRate` at `settledRate`. -/
theorem routineBody_allOk (h : w.NoUnsupportedRate) (now : Nat) :
    Settled w.settledRate { w with needUpdateRefreshRateHint := false } (routineBody .allOk now w) := by
  have hi := updateIdleHint_settled .allOk (w := { w with needUpdateRefreshRateHint := false }) h
    w.idleHintDeadlineTime now
  unfold routineBody
  dsimp only
  generalize (updateIdleHint .allOk w.idleHintDeadlineTime now
    { w with needUpdateRefreshRateHint := false }).2 = w₁ at hi ⊢
  cases hn : w.needUpdateRefreshRateHint
  · simpa [PowerHalHintWorker.settledRate, hn] using hi
  · obtain ⟨h₁, h₂⟩ := updateRefreshRateHintInternal_allOk hi.supported w.powerModeState w.vsyncPeriod
    generalize updateRefreshRateHintInternal .allOk w.powerModeState w.vsyncPeriod w₁ = c at h₁ h₂ ⊢
    simpa [PowerHalHintWorker.settledRate, hn, h₁] using hi.trans h₂

end HwcSession.PowerHint

namespace HwcSession.Session

open HwcSession.Basic HwcSession.PowerHint

variable {lim : Limits}

/-! ## The signal the session sends -/

namespace State

/-- What `updateRefreshRateHint` reads of the primary: its last power mode and its
configuration table. -/
def primaryView (s : State) : Option (PowerMode × List Nat) :=
  (s.hwcDisplay hwcDisplayPrimary).map fun p => (p.lastPowerMode, p.vsyncPeriods)

/-- The signal `updateRefreshRateHint` sends from `s`, if it sends one. -/
def refreshSignal (s : State) : Option (PowerMode × Nat) :=
  match s.hwcDisplay hwcDisplayPrimary with
  | some p =>
      if (s.getVsyncPeriod hwcDisplayPrimary % 2 ^ 32).toNat ≠ 0 then
        some (p.lastPowerMode, (s.getVsyncPeriod hwcDisplayPrimary % 2 ^ 32).toNat)
      else none
  | none => none

theorem refreshSignal_congr {s t : State} (h : t.primaryView = s.primaryView) :
    t.refreshSignal = s.refreshSignal := by
  unfold primaryView at h
  unfold refreshSignal getVsyncPeriod
  cases ht : t.hwcDisplay hwcDisplayPrimary <;> cases hs : s.hwcDisplay hwcDisplayPrimary <;>
    simp_all

/-- No signal for an `On` primary comes from a state whose primary is absent or `Off`. -/
theorem refreshSignal_ne_on {s : State} (h : ∀ x, s.primaryView = some x → x.1 = .off)
    (v : Nat) : s.refreshSignal ≠ some (.on, v) := by
  unfold refreshSignal
  split
  · rename_i p hp
    have hoff : p.lastPowerMode = .off := h (p.lastPowerMode, p.vsyncPeriods) (by simp [primaryView, hp])
    split_ifs <;> simp [hoff]
  · simp

@[simp] theorem activateDisplay_primaryView (s : State) (c : Nat) (e : Bool) :
    (s.activateDisplay c e).primaryView = s.primaryView := by
  by_cases hc : hwcDisplayPrimary = c
  · subst hc
    cases hd : s.hwcDisplay hwcDisplayPrimary <;> simp [primaryView, activateDisplay, hd]
  · simp [primaryView, activateDisplay, Function.update_noteq hc]

end State

theorem updateRefreshRateHint_refreshSignal (s : State) :
    (updateRefreshRateHint s).refreshSignal = s.refreshSignal := by
  rw [updateRefreshRateHint_eq]
  rfl

theorem updateRefreshRateHint_powerHalHint (s : State) :
    (updateRefreshRateHint s).powerHalHint = match s.refreshSignal with
      | some (m, v) => signalRefreshRate m v s.powerHalHint
      | none => s.powerHalHint := by
  unfold updateRefreshRateHint State.refreshSignal
  cases s.hwcDisplay hwcDisplayPrimary with
  | none => rfl
  | some p =>
      dsimp only
      split_ifs <;> rfl

theorem Activated.primaryView {a : Bool} {s t : State} (h : Activated a s t) :
    t.primaryView = s.primaryView := by
  induction h <;> simp_all

theorem handleConcurrency_primaryView (c : Nat) (s : State) :
    (handleConcurrency lim c s).primaryView = s.primaryView :=
  (handleConcurrency_activated c s : Activated _ s (handleConcurrency lim c s)).primaryView

/-! ## The worker agrees with the session -/

/-- The worker agrees with the signal `sig` the session would send now: no rate is cached
as unsupported, a signal still to be processed while the primary is `On` is `sig`, and
once it is processed `mPrevRefreshRate` is the rate `sig` asks for. -/
structure SignalAgrees (sig : Option (PowerMode × Nat)) (w : PowerHalHintWorker) : Prop where
  supported : w.NoUnsupportedRate
  pending : ∀ v, sig = some (.on, v) → w.needUpdateRefreshRateHint = true →
    w.powerModeState = .on ∧ w.vsyncPeriod = v
  settled : ∀ v, sig = some (.on, v) → w.needUpdateRefreshRateHint = false →
    w.prevRefreshRate = refreshRateOf v

namespace SignalAgrees

variable {sig : Option (PowerMode × Nat)} {w : PowerHalHintWorker}

theorem of_ne_on (hw : w.NoUnsupportedRate) (hs : ∀ v, sig ≠ some (.on, v)) : SignalAgrees sig w :=
  ⟨hw, fun v h => absurd h (hs v), fun v h => absurd h (hs v)⟩

theorem signalRefreshRate (hw : w.NoUnsupportedRate) (m : PowerMode) (v : Nat) :
    SignalAgrees (some (m, v)) (signalRefreshRate m v w) :=
  ⟨hw, fun _ h _ => Prod.mk.inj (Option.some.inj h), fun _ _ h => by simp [PowerHint.signalRefreshRate] at h⟩

theorem signalIdle (h : SignalAgrees sig w) (now : Nat) : SignalAgrees sig (signalIdle now w) := by
  unfold PowerHint.signalIdle
  split_ifs
  exacts [h, ⟨h.supported, h.pending, h.settled⟩]

/-- A round of `Routine` against a service that accepts everything processes the signal. -/
theorem routineBody (h : SignalAgrees sig w) (now : Nat) :
    SignalAgrees sig (routineBody .allOk now w) := by
  have hr := routineBody_allOk h.supported now
  refine ⟨hr.supported, fun _ _ hn => by simp [hr.needUpdate] at hn, fun v hv _ => ?_⟩
  rw [hr.prevRefreshRate, PowerHalHintWorker.settledRate]
  cases hn : w.needUpdateRefreshRateHint
  · simpa using h.settled v hv hn
  · obtain ⟨hm, hv'⟩ := h.pending v hv hn
    simp [hm, hv']

end SignalAgrees

/-- The worker agrees with the signal the session would send from `s`. -/
def State.HintInvariant (s : State) : Prop := SignalAgrees s.refreshSignal s.powerHalHint

/-- `t` shows the primary as `s` does, or shows no primary that is not `Off`. -/
def PrimaryKept (s t : State) : Prop :=
  t.primaryView = s.primaryView ∨ ∀ x, t.primaryView = some x → x.1 = .off

variable {s t : State}

theorem PrimaryKept.handleConcurrency (h : PrimaryKept s t) (c : Nat) :
    PrimaryKept s (handleConcurrency lim c t) := by
  rwa [PrimaryKept, handleConcurrency_primaryView]

theorem PrimaryKept.setMapInfo (h : PrimaryKept s t) (c : Nat) (m : MapInfo) :
    PrimaryKept s (t.setMapInfo c m) := h

/-- Filling a slot with a display that is `Off`, or emptying it. -/
theorem primaryKept_setDisplay (c : Nat) (d : Option HwcDisplay)
    (hd : ∀ e, d = some e → e.lastPowerMode = .off) : PrimaryKept s (s.setDisplay c d) := by
  by_cases hc : hwcDisplayPrimary = c
  · subst hc
    refine .inr fun x hx => ?_
    simp only [State.primaryView, State.setDisplay_hwcDisplay, Function.update_same,
      Option.map_eq_some'] at hx
    obtain ⟨e, rfl, rfl⟩ := hx
    exact hd e rfl
  · exact .inl (by simp [State.primaryView, Function.update_noteq hc])

theorem State.HintInvariant.of_kept (h : s.HintInvariant) (hw : t.powerHalHint = s.powerHalHint)
    (hk : PrimaryKept s t) : t.HintInvariant := by
  unfold State.HintInvariant at *
  rw [hw]
  rcases hk with hk | hk
  · rwa [State.refreshSignal_congr hk]
  · exact .of_ne_on h.supported (State.refreshSignal_ne_on hk)

theorem Effect.hintInvariant (he : Effect lim l s t) (h : s.HintInvariant) : t.HintInvariant := by
  cases he with
  | concurrency c => exact h.of_kept (by simp) (.inl (handleConcurrency_primaryView c s))
  | powerMode c d m _ hd =>
      unfold State.HintInvariant
      rw [updateRefreshRateHint_refreshSignal, updateRefreshRateHint_powerHalHint]
      have hw : (handleConcurrency lim c (s.setDisplay c (some { d with lastPowerMode := m }))).powerHalHint =
          s.powerHalHint := by simp
      generalize handleConcurrency lim c (s.setDisplay c (some { d with lastPowerMode := m })) = u at hw ⊢
      cases u.refreshSignal with
      | none => exact .of_ne_on (hw ▸ h.supported) fun _ => by simp
      | some mv => exact .signalRefreshRate (hw ▸ h.supported) mv.1 mv.2
  | connect c d m _ _ _ hd | createVirtual c d m _ _ _ _ hd =>
      have hk := (primaryKept_setDisplay (s := s) c (some d) fun e he =>
        Option.some.inj he ▸ hd.2).setMapInfo c m
      first
        | exact h.of_kept (by simp) (hk.handleConcurrency c)
        | exact h.of_kept rfl hk
  | disconnect c _ _ =>
      exact h.of_kept (by simp)
        (((primaryKept_setDisplay c none fun _ he => nomatch he).setMapInfo c _).handleConcurrency c)
  | destroy c _ _ _ =>
      exact h.of_kept rfl ((primaryKept_setDisplay c none fun _ he => nomatch he).setMapInfo c _)
  | register f i d p =>
      have hreg := (registerCallback_registered f i d p s : Registered s (registerCallback lim f i d p s))
      refine h.of_kept hreg.powerHalHint ?_
      rcases hreg.slots hwcDisplayPrimary with ⟨he, -⟩ | ⟨-, -, -, e, he, -, hoff⟩
      · exact .inl (by simp [State.primaryView, he])
      · refine .inr fun x hx => ?_
        simp only [State.primaryView, he, Option.map_some', Option.some.injEq] at hx
        rw [← hx]
        exact hoff
  | activeConfig c d k _ hd =>
      refine h.of_kept rfl (.inl ?_)
      by_cases hc : hwcDisplayPrimary = c
      · subst hc
        simp [State.primaryView, hd]
      · simp [State.primaryView, Function.update_noteq hc]
  | idle now => exact SignalAgrees.signalIdle h now
  | freeMapInfo c m => exact h.of_kept rfl (.inl rfl)
  | hotplug c conn => exact h.of_kept (by simp) (.inl (by simp [State.primaryView]))
  | refresh => exact h.of_kept (by simp) (.inl (by simp [State.primaryView]))
  | ready | uevent => exact h.of_kept rfl (.inl rfl)

theorem Effects.hintInvariant (he : Effects lim l s t) (h : s.HintInvariant) : t.HintInvariant := by
  induction he with
  | refl => exact h
  | tail _ h' ih => exact h'.hintInvariant ih

theorem init_hintInvariant {r : HwReport} {f : Factory} {i : Option (List HwDisplayInfo)}
    (h : init lim r f i = some s) : s.HintInvariant := by
  unfold init at h
  dsimp only at h
  split_ifs at h
  obtain rfl := Option.some.inj h
  obtain ⟨-, -, -, hw, -, h₀⟩ :=
    createPrimaryDisplay_frame f i (State.empty (initSupportedDisplaySlots lim r))
  unfold State.HintInvariant
  rw [hw]
  refine .of_ne_on (fun _ => by simp [State.empty, PowerHalHintWorker.init])
    (State.refreshSignal_ne_on fun x hx => ?_)
  simp only [State.primaryView, Option.map_eq_some'] at hx
  obtain ⟨d, hd, rfl⟩ := hx
  rcases h₀ d hd with h | h
  · simp [State.empty] at h
  · exact h.2

/-- `Routine()`: one round of the worker's thread at monotonic time `now`, against `hal`. -/
def State.routine (hal : PowerHal) (now : Nat) (s : State) : State :=
  { s with powerHalHint := routineBody hal now s.powerHalHint }

theorem State.HintInvariant.routine (h : s.HintInvariant) (now : Nat) :
    (s.routine .allOk now).HintInvariant :=
  SignalAgrees.routineBody h now

/-! ## The session and the worker's thread -/

variable (lim)

/-- The states the session reaches from `Init` while the worker's thread runs `Routine`
rounds against `hal` between its operations, in any order. -/
inductive Served (hal : PowerHal) : State → Prop
  | init (r : HwReport) (f : Factory) (hwDisplaysInfo : Option (List HwDisplayInfo)) (s : State)
      (h : init lim r f hwDisplaysInfo = some s) : Served hal s
  | step (op : Op) {s t : State} (hs : Served hal s) (h : step lim op s = some t) : Served hal t
  | routine (now : Nat) {s : State} (hs : Served hal s) : Served hal (s.routine hal now)

/-- The operations of `ops`, each followed by one `Routine` round at time `now`. -/
def runServed (hal : PowerHal) (now : Nat) : List Op → State → Option State
  | [], s => some s
  | op :: ops, s => (step lim op s).bind fun t => runServed hal now ops (t.routine hal now)

variable {lim} {hal : PowerHal} {now : Nat}

theorem Served.of_runServed : ∀ {ops : List Op} {s t : State}, Served lim hal s →
    runServed lim hal now ops s = some t → Served lim hal t
  | [], _, _, hs, h => Option.some.inj h ▸ hs
  | op :: _, _, _, hs, h => by
      obtain ⟨s', hs', h'⟩ := Option.bind_eq_some.1 h
      exact ((hs.step op hs').routine now).of_runServed h'

theorem served_of_bind {r : HwReport} {f : Factory} {i : Option (List HwDisplayInfo)}
    {ops : List Op} (h : (init lim r f i).bind (runServed lim hal now ops) = some t) :
    Served lim hal t := by
  obtain ⟨s, hs, h⟩ := Option.bind_eq_some.1 h
  exact (Served.init r f i s hs).of_runServed h

theorem Served.hintInvariant (h : Served lim .allOk s) : s.HintInvariant := by
  induction h with
  | init r f i s h => exact init_hintInvariant h
  | step op _ h ih => exact (step_effects h (.inl rfl)).hintInvariant ih
  | routine now _ ih => exact ih.routine now

theorem prevRefreshRate_of_served (h : Served lim .allOk s)
    (hw : s.powerHalHint.needUpdateRefreshRateHint = false) {p : HwcDisplay}
    (hp : s.hwcDisplay hwcDisplayPrimary = some p) (hon : p.lastPowerMode = .on)
    (hv : (s.getVsyncPeriod hwcDisplayPrimary % 2 ^ 32).toNat ≠ 0) :
    s.powerHalHint.prevRefreshRate =
      refreshRateOf (s.getVsyncPeriod hwcDisplayPrimary % 2 ^ 32).toNat :=
  h.hintInvariant.settled _ (by rw [State.refreshSignal, hp]; simp only [if_pos hv, hon]) hw

/-- A primary with a 60 Hz configuration `0` and a 90 Hz configuration `1`. -/
def factory6090 : Factory := .allOk fun _ => [16666666, 11111111]

/-- The primary of `bootDisplays` powered on, after a round of the worker. -/
def poweredOnState : State :=
  ((init lim4 bootReport factory6090 (some bootDisplays)).bind
    (runServed lim4 .allOk 0 [.setPowerMode 0 2 .none])).get (by decide)

theorem prevRefreshRate_of_served_powered_on :
    Served lim4 .allOk poweredOnState ∧
      poweredOnState.powerHalHint.needUpdateRefreshRateHint = false ∧
      poweredOnState.hwcDisplay hwcDisplayPrimary =
        some ⟨.builtIn, 0, .on, true, [16666666, 11111111], 0⟩ ∧
      (poweredOnState.getVsyncPeriod hwcDisplayPrimary % 2 ^ 32).toNat ≠ 0 ∧
      poweredOnState.powerHalHint.prevRefreshRate =
        refreshRateOf (poweredOnState.getVsyncPeriod hwcDisplayPrimary % 2 ^ 32).toNat :=
  ⟨served_of_bind (Option.some_get _).symm, by decide, by decide, by decide,
    prevRefreshRate_of_served (served_of_bind (Option.some_get _).symm) (by decide)
      (show poweredOnState.hwcDisplay hwcDisplayPrimary =
        some ⟨.builtIn, 0, .on, true, [16666666, 11111111], 0⟩ by decide) rfl (by decide)⟩

/-- The vsync period of a display's active configuration. -/
def HwcDisplay.activeVsyncPeriod (d : HwcDisplay) : Nat := d.vsyncPeriods.getD d.activeConfig 0

/-- Power the primary on and let the worker run, then switch the primary to its 90 Hz
configuration and let the worker run again: the worker still holds 60. -/
theorem stale_after_active_config :
    ((init lim4 bootReport factory6090 (some bootDisplays)).bind
      (runServed lim4 .allOk 0 [.setPowerMode 0 2 .none, .setActiveConfig 0 1])).any
      (fun s => !s.powerHalHint.needUpdateRefreshRateHint &&
        (s.hwcDisplay hwcDisplayPrimary).any (fun p => p.lastPowerMode == .on &&
          s.powerHalHint.prevRefreshRate != refreshRateOf p.activeVsyncPeriod)) = true := by
  decide

end HwcSession.Session
