import HwcSession.PowerHint.Frame

/-!
# `Routine()` interleaved with the signal setters

`Routine()` runs on the worker's own thread; `signalRefreshRate` and `signalIdle` run on
the composer's threads and share the members they write with `Routine()` under the
worker's lock. This module takes `Routine()` apart at the points where another thread can
step in: each region in which the worker holds the lock is one step, and so is each call
to the power HAL extension. A run interleaves those steps with whole signal setters (each
one lock region) and with advances of the monotonic clock.

The wait at the top of `Routine()` returns on a `Signal()`, on its timeout, or
spuriously, as a condition variable may: the model lets it return at any step
(`Label.wake`). The refresh rate update is one step. It reads and writes only members no
other thread touches, and leaves the shared ones alone (`PowerHalHintWorker.shared`), so
an interleaving that splits its calls has the effect of one that does not.

Beside the worker's members the state keeps a record of the run that the code itself does
not keep, so that what happened earlier in a run can be read off its current state: the
times at which `signalIdle` calls completed, the values each `signalRefreshRate` stored,
and the arguments of the worker's last `updateRefreshRateHintInternal` call.

## Main results

* `routineWait_after_deadline`: once the clock has passed `2 ^ 32` ns, a deadline passed
  `δ < 2 ^ 32` ns ago makes `Routine()` wait `2 ^ 32 - δ` ns instead of not at all.
* `lastUpdate_when_blocking`: when the worker blocks in its wait, its last refresh rate
  update was made with the values the last `signalRefreshRate` stored.
* `idleHint_enabled_after_quiet_read`: the worker sends `setMode(DISPLAY_IDLE, true)` at
  time `t` only if every `signalIdle` that completed before it last read the deadline
  completed before `t - nsecsIdleHintTimeout`.
-/

namespace HwcSession.PowerHint

open HwcSession.Basic

/-! ## The wait at the top of `Routine()` -/

section Wait

variable {w : PowerHalHintWorker}

/-- With the idle hint supported and off and no update pending, a deadline still ahead of
the clock, by at most `nsecsIdleHintTimeout`, is waited for exactly. -/
theorem routineWait_before_deadline
    (hw : w.needUpdateRefreshRateHint = false ∧ w.idleHintIsSupported = true ∧
      w.idleHintIsEnabled = false)
    {t : Nat} (hD : t < w.idleHintDeadlineTime)
    (hW : w.idleHintDeadlineTime ≤ t + nsecsIdleHintTimeout) :
    routineWait t w = .timed (w.idleHintDeadlineTime - t) := by
  obtain ⟨h₁, h₂, h₃⟩ := hw
  have hlt : t % 2 ^ 32 < w.idleHintDeadlineTime := lt_of_le_of_lt (Nat.mod_le _ _) hD
  simp only [routineWait, h₁, h₂, h₃, Bool.false_eq_true, if_false, Bool.not_true,
    Bool.or_self, gt_iff_lt, hlt, if_true, RoutineWait.timed.injEq]
  unfold nsecsIdleHintTimeout at hW
  omega

/-- Five seconds after boot, with the deadline 50 ms ahead. -/
theorem routineWait_before_deadline_five_seconds :
    let w : PowerHalHintWorker :=
      { PowerHalHintWorker.init with idleHintIsSupported := true,
                                     idleHintSupportIsChecked := true,
                                     idleHintDeadlineTime := 5000000000 + 50000000 }
    (w.needUpdateRefreshRateHint = false ∧ w.idleHintIsSupported = true ∧
        w.idleHintIsEnabled = false) ∧ 5000000000 < w.idleHintDeadlineTime ∧
      w.idleHintDeadlineTime ≤ 5000000000 + nsecsIdleHintTimeout ∧
      routineWait 5000000000 w = .timed (w.idleHintDeadlineTime - 5000000000) :=
  ⟨⟨rfl, rfl, rfl⟩, by decide, by decide,
    routineWait_before_deadline ⟨rfl, rfl, rfl⟩ (by decide) (by decide)⟩

/-- With the idle hint supported and off and no update pending, once the clock has passed
`2 ^ 32` ns, a deadline that passed `δ` ns ago, `0 < δ < 2 ^ 32`, is read against the low
32 bits of the clock: the worker waits `2 ^ 32 - δ` ns instead of not waiting. -/
theorem routineWait_after_deadline
    (hw : w.needUpdateRefreshRateHint = false ∧ w.idleHintIsSupported = true ∧
      w.idleHintIsEnabled = false)
    {t δ : Nat} (ht : 2 ^ 32 ≤ t) (hδ : 0 < δ ∧ δ < 2 ^ 32) (hD : w.idleHintDeadlineTime = t - δ) :
    routineWait t w = .timed (2 ^ 32 - δ) := by
  obtain ⟨h₁, h₂, h₃⟩ := hw
  have hlt : t % 2 ^ 32 < w.idleHintDeadlineTime := by omega
  simp only [routineWait, h₁, h₂, h₃, Bool.false_eq_true, if_false, Bool.not_true,
    Bool.or_self, gt_iff_lt, hlt, if_true, RoutineWait.timed.injEq]
  omega

/-- Five seconds after boot, with a deadline that passed a millisecond ago. -/
theorem routineWait_after_deadline_five_seconds :
    let w : PowerHalHintWorker :=
      { PowerHalHintWorker.init with idleHintIsSupported := true,
                                     idleHintSupportIsChecked := true,
                                     idleHintDeadlineTime := 5000000000 - 1000000 }
    (w.needUpdateRefreshRateHint = false ∧ w.idleHintIsSupported = true ∧
        w.idleHintIsEnabled = false) ∧ 2 ^ 32 ≤ 5000000000 ∧ (0 < 1000000 ∧ 1000000 < 2 ^ 32) ∧
      w.idleHintDeadlineTime = 5000000000 - 1000000 ∧
      routineWait 5000000000 w = .timed (2 ^ 32 - 1000000) :=
  ⟨⟨rfl, rfl, rfl⟩, by decide, by decide, rfl,
    routineWait_after_deadline ⟨rfl, rfl, rfl⟩ (by decide) (by decide) rfl⟩

end Wait

/-! ## The threads -/

/-- The members `Routine()` copies under the lock before it unlocks, with the times of the
`signalIdle` calls completed by then. -/
structure Snapshot where
  needUpdateRefreshRateHint : Bool
  deadlineTime : Nat
  powerMode : PowerMode
  vsyncPeriod : Nat
  idleSignals : List Nat
  deriving DecidableEq, Repr

/-- Where the worker thread is in `Routine()`: the step it takes next. -/
inductive Pc where
  /-- `Lock()` at the top of `Routine()`, and the wait decision. -/
  | top
  /-- Blocked in `WaitForSignalOrExitLocked`. -/
  | waiting (wait : RoutineWait)
  /-- The first lock region of `checkIdleHintSupport()`. -/
  | idleSupport (snap : Snapshot)
  /-- The call `isModeSupported("DISPLAY_IDLE")`. -/
  | idleQuery (snap : Snapshot)
  /-- The second lock region of `checkIdleHintSupport()`, with the query's status. -/
  | idleRecord (snap : Snapshot) (ret : Int)
  /-- `deadlineTime < systemTime(SYSTEM_TIME_MONOTONIC)` in `updateIdleHint`. -/
  | idleClock (snap : Snapshot)
  /-- The call `setMode("DISPLAY_IDLE", enabled)`. -/
  | idleSend (snap : Snapshot) (enabled : Bool)
  /-- `updateRefreshRateHintInternal(powerMode, vsyncPeriod)`, if the snapshot asks for it. -/
  | refresh (snap : Snapshot)
  /-- The lock region after a refresh rate update that failed. -/
  | retry (snap : Snapshot)
  deriving DecidableEq, Repr

/-- The arguments of the refresh rate update the worker has copied from the signalled
values and not made yet. -/
def Pc.pendingUpdate : Pc → Option (PowerMode × Nat)
  | .idleSupport snap | .idleQuery snap | .idleRecord snap _ | .idleClock snap
  | .idleSend snap _ | .refresh snap =>
      if snap.needUpdateRefreshRateHint then some (snap.powerMode, snap.vsyncPeriod) else none
  | _ => none

/-- The values `Routine()` copied, while the worker is past its first lock region. -/
def Pc.snapshot? : Pc → Option Snapshot
  | .idleSupport snap | .idleQuery snap | .idleRecord snap _ | .idleClock snap
  | .idleSend snap _ | .refresh snap | .retry snap => some snap
  | _ => none

/-- Between the two lock regions of `checkIdleHintSupport()`. -/
def Pc.idleQuerying : Pc → Bool
  | .idleQuery _ | .idleRecord _ _ => true
  | _ => false

/-- `updateIdleHint` past its support check, which succeeded. -/
def Pc.idleSupported : Pc → Bool
  | .idleClock _ | .idleSend _ _ => true
  | _ => false

/-- The hint worker with its thread's position, the monotonic clock, and the history of the
run, newest first: the times of the completed `signalIdle` calls, the values stored by
each `signalRefreshRate`, and the arguments of the last `updateRefreshRateHintInternal`. -/
structure Threads where
  now : Nat
  worker : PowerHalHintWorker
  pc : Pc
  idleSignals : List Nat
  refreshSignals : List (PowerMode × Nat)
  lastUpdate : Option (PowerMode × Nat)

/-- One step of a run. -/
inductive Label where
  /-- The monotonic clock moves on by `δ` ns. -/
  | advance (δ : Nat)
  | signalRefreshRate (powerMode : PowerMode) (vsyncPeriod : Nat)
  | signalIdle
  /-- The worker thread's next step. -/
  | worker
  /-- The worker's wait returns: on a `Signal()`, on its timeout, or spuriously. -/
  | wake
  deriving DecidableEq, Repr

namespace Threads

variable (hal : PowerHal) (s : Threads)

/-- The worker's constructor, before the first `Routine()`, with the clock at `t₀`. -/
def init (t₀ : Nat) : Threads := ⟨t₀, .init, .top, [], [], none⟩

/-- The end of the first lock region of `Routine()`: the signalled values are copied and
the update flag cleared. -/
def takeSnapshot : Threads :=
  { s with worker := { s.worker with needUpdateRefreshRateHint := false },
           pc := .idleSupport ⟨s.worker.needUpdateRefreshRateHint, s.worker.idleHintDeadlineTime,
             s.worker.powerModeState, s.worker.vsyncPeriod, s.idleSignals⟩ }

/-- The worker thread's next step; `none` while it is blocked. -/
def workerStep : Option Threads :=
  match s.pc with
  | .top =>
      match routineWait s.now s.worker with
      | .noWait => some s.takeSnapshot
      | wait => some { s with pc := .waiting wait }
  | .waiting _ => none
  | .idleSupport snap =>
      if s.worker.idleHintSupportIsChecked then
        some { s with pc := if s.worker.idleHintIsSupported then .idleClock snap else .refresh snap }
      else some { s with pc := .idleQuery snap }
  | .idleQuery snap =>
      let (ret, w) := checkPowerHalExtHintSupport hal .displayIdle s.worker
      some { s with worker := w, pc := .idleRecord snap ret }
  | .idleRecord snap ret =>
      if ret = noError then
        some { s with worker := { s.worker with idleHintIsSupported := true,
                                                idleHintSupportIsChecked := true },
                      pc := .idleClock snap }
      else if ret = -eOpNotSupp then
        some { s with worker := { s.worker with idleHintSupportIsChecked := true },
                      pc := .refresh snap }
      else some { s with pc := .refresh snap }
  | .idleClock snap =>
      let enableIdleHint := decide (snap.deadlineTime < s.now)
      if s.worker.idleHintIsEnabled ≠ enableIdleHint then
        some { s with pc := .idleSend snap enableIdleHint }
      else some { s with pc := .refresh snap }
  | .idleSend snap enabled =>
      let (ret, w) := sendPowerHalExtHint hal .displayIdle enabled s.worker
      some { s with worker := if ret = noError then { w with idleHintIsEnabled := enabled } else w,
                    pc := .refresh snap }
  | .refresh snap =>
      if snap.needUpdateRefreshRateHint then
        let (rc, w) := updateRefreshRateHintInternal hal snap.powerMode snap.vsyncPeriod s.worker
        some { s with worker := w, lastUpdate := some (snap.powerMode, snap.vsyncPeriod),
                      pc := if rc ≠ noError ∧ rc ≠ -eOpNotSupp then .retry snap else .top }
      else some { s with pc := .top }
  | .retry _ =>
      some { s with worker := if s.worker.powerModeState = .on then
                                { s.worker with needUpdateRefreshRateHint := true }
                              else s.worker,
                    pc := .top }

/-- One step of a run: a clock advance, a signal setter at the current time, or a step of
the worker thread. -/
def step : Label → Option Threads
  | .advance δ => some { s with now := s.now + δ }
  | .signalRefreshRate m v =>
      some { s with worker := signalRefreshRate m v s.worker,
                    refreshSignals := (m, v) :: s.refreshSignals }
  | .signalIdle =>
      some { s with worker := signalIdle s.now s.worker, idleSignals := s.now :: s.idleSignals }
  | .worker => s.workerStep hal
  | .wake =>
      match s.pc with
      | .waiting _ => some s.takeSnapshot
      | _ => none

/-- The labels `ls`, in order, from `s`. -/
def run : List Label → Threads → Option Threads
  | [], s => some s
  | l :: ls, s => (s.step hal l).bind (run ls)

/-- The states of the runs from the constructor's, started at any time. -/
def Reachable (s : Threads) : Prop :=
  ∃ t₀, Relation.ReflTransGen (fun s t => ∃ l, step hal s l = some t) (init t₀) s

theorem Reachable.step {s t : Threads} (h : Reachable hal s) {l : Label}
    (hs : s.step hal l = some t) : Reachable hal t :=
  h.imp fun _ h => h.tail ⟨l, hs⟩

theorem reachable_of_run {t₀ : Nat} {ls : List Label} {t : Threads}
    (h : run hal ls (init t₀) = some t) : Reachable hal t := by
  suffices ∀ (ls : List Label) (s : Threads), Reachable hal s → run hal ls s = some t →
      Reachable hal t from this ls _ ⟨t₀, .refl⟩ h
  intro ls
  induction ls with
  | nil => exact fun s hs h => Option.some.inj h ▸ hs
  | cons l ls ih =>
      intro s hs h
      obtain ⟨s', hs', h'⟩ := Option.bind_eq_some.1 h
      exact ih s' (hs.step hal hs') h'

theorem signalIdle_eq (now : Nat) (w : PowerHalHintWorker) :
    signalIdle now w = { w with idleHintDeadlineTime :=
      if w.idleHintSupportIsChecked ∧ ¬w.idleHintIsSupported then w.idleHintDeadlineTime
      else now + nsecsIdleHintTimeout } := by
  unfold signalIdle
  split <;> rfl

/-! ## No refresh rate signal is dropped

`Routine()` clears `mNeedUpdateRefreshRateHint` in the lock region where it copies the
signalled values, so a `signalRefreshRate` that comes after the copy sets it again, and the
worker does not block before it has passed the new values on. -/

/-- The arguments of the refresh rate update the worker made last, or has copied and is
about to make. -/
def actedOn : Option (PowerMode × Nat) := s.pc.pendingUpdate.or s.lastUpdate

/-- The stored values are those of the last `signalRefreshRate`, and while no update is
pending the worker has acted on them. -/
structure RefreshInvariant : Prop where
  stored : s.refreshSignals = [] ∨
    s.refreshSignals.head? = some (s.worker.powerModeState, s.worker.vsyncPeriod)
  fresh : s.refreshSignals = [] →
    s.worker.needUpdateRefreshRateHint = false ∧ s.actedOn = none ∧ ∀ snap, s.pc ≠ .retry snap
  acted : s.worker.needUpdateRefreshRateHint = false → s.actedOn = s.refreshSignals.head?

variable {hal s} {t : Threads}

theorem init_refreshInvariant (t₀ : Nat) : (init t₀).RefreshInvariant :=
  ⟨.inl rfl, fun _ => ⟨rfl, rfl, nofun⟩, fun _ => rfl⟩

/-- A step that keeps the history, the signalled values, the flag, and what the worker
acted on, and does not reach the retry region. -/
theorem RefreshInvariant.of_eq (hi : s.RefreshInvariant) (hr : t.refreshSignals = s.refreshSignals)
    (hw : t.worker.needUpdateRefreshRateHint = s.worker.needUpdateRefreshRateHint ∧
      t.worker.powerModeState = s.worker.powerModeState ∧ t.worker.vsyncPeriod = s.worker.vsyncPeriod)
    (ha : t.actedOn = s.actedOn) (hp : ∀ snap, t.pc = .retry snap → s.pc = .retry snap) :
    t.RefreshInvariant := by
  obtain ⟨hn, hm, hv⟩ := hw
  refine ⟨by rw [hr, hm, hv]; exact hi.stored, fun he => ?_, fun hf => ?_⟩
  · obtain ⟨h₁, h₂, h₃⟩ := hi.fresh (hr ▸ he)
    exact ⟨hn.trans h₁, ha.trans h₂, fun snap h => h₃ snap (hp snap h)⟩
  · rw [ha, hr]
    exact hi.acted (hn ▸ hf)

theorem RefreshInvariant.takeSnapshot (hi : s.RefreshInvariant) (hp : s.pc.pendingUpdate = none) :
    s.takeSnapshot.RefreshInvariant := by
  have hlast : s.actedOn = s.lastUpdate := by rw [actedOn, hp, Option.none_or]
  refine ⟨hi.stored, fun he => ?_, fun _ => ?_⟩
  · obtain ⟨hf, ha, -⟩ := hi.fresh he
    refine ⟨rfl, ?_, nofun⟩
    simp only [Threads.takeSnapshot, actedOn, Pc.pendingUpdate, hf, if_false, Option.none_or]
    exact hlast.symm.trans ha
  · simp only [Threads.takeSnapshot, actedOn, Pc.pendingUpdate]
    cases hn : s.worker.needUpdateRefreshRateHint
    · rw [if_neg Bool.false_ne_true, Option.none_or, ← hlast]
      exact hi.acted hn
    · rw [if_pos rfl, Option.or_some]
      rcases hi.stored with he | he
      · exact absurd hn (by simp [(hi.fresh he).1])
      · exact he.symm

/-- A move of the worker's position alone, which keeps the update it is about to make and
does not reach the retry region. -/
theorem RefreshInvariant.move (hi : s.RefreshInvariant) {p : Pc}
    (hp : p.pendingUpdate = s.pc.pendingUpdate) (hr : ∀ snap, p ≠ .retry snap) :
    ({ s with pc := p } : Threads).RefreshInvariant :=
  hi.of_eq rfl ⟨rfl, rfl, rfl⟩ (by simp only [actedOn, hp]) fun snap h => absurd h (hr snap)

theorem RefreshInvariant.workerStep (hi : s.RefreshInvariant) (hs : s.workerStep hal = some t) :
    t.RefreshInvariant := by
  unfold Threads.workerStep at hs
  split at hs
  next hpc =>
    split at hs <;> cases hs
    · exact hi.takeSnapshot (by rw [hpc]; rfl)
    · exact hi.move (by rw [hpc]; rfl) fun _ => nofun
  · cases hs
  next snap hpc =>
    split at hs <;> cases hs <;> (try split) <;> exact hi.move (by rw [hpc]; rfl) fun _ => nofun
  next snap hpc =>
    cases hs
    have h := checkPowerHalExtHintSupport_shared hal s.worker .displayIdle
    simp only [PowerHalHintWorker.shared, Prod.mk.injEq] at h
    exact hi.of_eq rfl ⟨h.1, h.2.2.1, h.2.2.2.1⟩ (by simp only [actedOn, hpc]; rfl) fun _ => nofun
  next snap ret hpc =>
    split_ifs at hs <;> cases hs <;>
      exact hi.of_eq rfl ⟨rfl, rfl, rfl⟩ (by simp only [actedOn, hpc]; rfl) fun _ => nofun
  next snap hpc =>
    dsimp only at hs
    split_ifs at hs <;> cases hs <;> exact hi.move (by rw [hpc]; rfl) fun _ => nofun
  next snap enabled hpc =>
    cases hs
    have h := sendPowerHalExtHint_shared hal s.worker .displayIdle enabled
    simp only [PowerHalHintWorker.shared, Prod.mk.injEq] at h
    exact hi.of_eq rfl (by split_ifs <;> exact ⟨h.1, h.2.2.1, h.2.2.2.1⟩)
      (by simp only [actedOn, hpc]; rfl) fun _ => nofun
  next snap hpc =>
    split_ifs at hs with hu
    · have h := updateRefreshRateHintInternal_shared hal s.worker snap.powerMode snap.vsyncPeriod
      revert hs h
      obtain ⟨rc, w⟩ := updateRefreshRateHintInternal hal snap.powerMode snap.vsyncPeriod s.worker
      rintro ⟨⟩ h
      simp only [PowerHalHintWorker.shared, Prod.mk.injEq] at h
      have ha : s.actedOn = some (snap.powerMode, snap.vsyncPeriod) := by
        simp only [actedOn, hpc, Pc.pendingUpdate, hu, if_true, Option.or_some]
      have hne : s.refreshSignals ≠ [] := fun he => by simp [(hi.fresh he).2.1] at ha
      refine ⟨by rw [h.2.2.1, h.2.2.2.1]; exact hi.stored, fun he => absurd he hne, fun hf => ?_⟩
      rw [← hi.acted (h.1 ▸ hf), ha]
      split_ifs <;> rfl
    · cases hs
      exact hi.move (by simp only [hpc, Pc.pendingUpdate, hu, if_false]; rfl) fun _ => nofun
  next snap hpc =>
    cases hs
    split_ifs with hon
    · exact ⟨hi.stored, fun he => absurd hpc ((hi.fresh he).2.2 snap), fun h => nomatch h⟩
    · exact hi.of_eq rfl ⟨rfl, rfl, rfl⟩ (by simp only [actedOn, hpc]; rfl) fun _ => nofun

/-- Every step keeps the refresh invariant. -/
theorem RefreshInvariant.step (hi : s.RefreshInvariant) {l : Label}
    (hs : s.step hal l = some t) : t.RefreshInvariant := by
  cases l with
  | advance δ =>
      cases hs
      exact hi.of_eq rfl ⟨rfl, rfl, rfl⟩ rfl fun _ h => h
  | signalRefreshRate m v =>
      cases hs
      exact ⟨.inr rfl, fun he => absurd he (List.cons_ne_nil _ _), fun hf => absurd hf (by
        simp [signalRefreshRate])⟩
  | signalIdle =>
      cases hs
      rw [signalIdle_eq]
      exact hi.of_eq rfl ⟨rfl, rfl, rfl⟩ rfl fun _ h => h
  | worker => exact hi.workerStep hs
  | wake =>
      simp only [Threads.step] at hs
      split at hs
      next hpc =>
        cases hs
        exact hi.takeSnapshot (by rw [hpc]; rfl)
      · cases hs

theorem Reachable.refreshInvariant (h : Reachable hal s) : s.RefreshInvariant := by
  obtain ⟨t₀, h⟩ := h
  induction h with
  | refl => exact init_refreshInvariant t₀
  | tail _ hs ih =>
      obtain ⟨l, hs⟩ := hs
      exact ih.step hs

/-- **No refresh rate signal is dropped.** When the worker, at the top of `Routine()`,
decides to block in `WaitForSignalOrExitLocked`, its last `updateRefreshRateHintInternal`
was made with the values stored by the last `signalRefreshRate`; with no signal yet, it
has made none. -/
theorem lastUpdate_when_blocking (h : Reachable hal s) (htop : s.pc = .top)
    (hw : routineWait s.now s.worker ≠ .noWait) : s.lastUpdate = s.refreshSignals.head? := by
  have hn : s.worker.needUpdateRefreshRateHint = false := by
    cases hn : s.worker.needUpdateRefreshRateHint
    · rfl
    · exact absurd (by simp [routineWait, hn]) hw
  have ha := h.refreshInvariant.acted hn
  rwa [actedOn, htop, show Pc.top.pendingUpdate = none from rfl, Option.none_or] at ha

/-- From the top of `Routine()`, a wait decision other than none blocks the worker. -/
theorem workerStep_top (htop : s.pc = .top) (hw : routineWait s.now s.worker ≠ .noWait) :
    s.workerStep hal = some { s with pc := .waiting (routineWait s.now s.worker) } := by
  simp only [Threads.workerStep, htop]

/-- The labels of a run in which the primary is signalled `On` at 60 Hz, the worker's
first round enables the idle hint, and the worker comes back to the top of `Routine()`. -/
def signalledRoundLabels : List Label :=
  [.signalRefreshRate .on 16666666, .advance 1, .worker, .worker, .worker, .worker, .worker,
    .worker, .worker]

/-- The state that run ends in, against a service that accepts everything. -/
def signalledRoundState : Threads :=
  (run .allOk signalledRoundLabels (init 0)).get (by decide)

theorem lastUpdate_when_blocking_after_round :
    Reachable .allOk signalledRoundState ∧ signalledRoundState.pc = .top ∧
      routineWait signalledRoundState.now signalledRoundState.worker ≠ .noWait ∧
      signalledRoundState.lastUpdate = signalledRoundState.refreshSignals.head? :=
  ⟨reachable_of_run .allOk (Option.some_get _).symm, by decide, by decide,
    lastUpdate_when_blocking (reachable_of_run .allOk (Option.some_get _).symm) (by decide)
      (by decide)⟩

/-! ## The idle hint and the idle deadline

`updateIdleHint` decides on the deadline `Routine()` copied in its first lock region, and
reads the clock after it has unlocked. A `signalIdle` that completes after the copy does
not hold back the `setMode(DISPLAY_IDLE, true)` of that round; it only moves the deadline
for the next one. -/

/-- `signalIdle` does nothing and `updateIdleHint` gives up: the idle hint is known to be
unsupported. -/
def idleUnsupported (w : PowerHalHintWorker) : Bool :=
  w.idleHintSupportIsChecked && !w.idleHintIsSupported

/-- The idle deadline is at least `nsecsIdleHintTimeout` after every completed
`signalIdle`, in the worker and in its copy, unless the idle hint is known to be
unsupported; and the worker sends `setMode(DISPLAY_IDLE, true)` only with a copied deadline
that has passed. -/
structure IdleInvariant : Prop where
  past : ∀ τ ∈ s.idleSignals, τ ≤ s.now
  deadline : idleUnsupported s.worker = true ∨
    ∀ τ ∈ s.idleSignals, τ + nsecsIdleHintTimeout ≤ s.worker.idleHintDeadlineTime
  snapshot : ∀ snap, s.pc.snapshot? = some snap → idleUnsupported s.worker = true ∨
    ∀ τ ∈ snap.idleSignals, τ + nsecsIdleHintTimeout ≤ snap.deadlineTime
  checked : s.worker.idleHintIsSupported = true → s.worker.idleHintSupportIsChecked = true
  querying : s.pc.idleQuerying = true → s.worker.idleHintSupportIsChecked = false
  supported : s.pc.idleSupported = true → s.worker.idleHintIsSupported = true
  passed : ∀ snap, s.pc = .idleSend snap true → snap.deadlineTime < s.now

theorem init_idleInvariant (t₀ : Nat) : (init t₀).IdleInvariant :=
  ⟨nofun, .inr nofun, nofun, nofun, nofun, nofun, nofun⟩

/-- A step that keeps the clock, the signals and the idle members of the worker, and moves
the worker to a position whose obligations hold. -/
theorem IdleInvariant.of_eq (hi : s.IdleInvariant) (hn : t.now = s.now)
    (hsig : t.idleSignals = s.idleSignals)
    (hw : t.worker.idleHintDeadlineTime = s.worker.idleHintDeadlineTime ∧
      t.worker.idleHintSupportIsChecked = s.worker.idleHintSupportIsChecked ∧
      t.worker.idleHintIsSupported = s.worker.idleHintIsSupported)
    (hsnap : ∀ snap, t.pc.snapshot? = some snap → s.pc.snapshot? = some snap)
    (hq : t.pc.idleQuerying = true → s.worker.idleHintSupportIsChecked = false)
    (hs : t.pc.idleSupported = true → s.worker.idleHintIsSupported = true)
    (hp : ∀ snap, t.pc = .idleSend snap true → snap.deadlineTime < s.now) :
    t.IdleInvariant := by
  obtain ⟨hd, hc, hsu⟩ := hw
  have hu : idleUnsupported t.worker = idleUnsupported s.worker := by
    simp only [idleUnsupported, hc, hsu]
  refine ⟨?_, ?_, fun snap h => ?_, ?_, fun h => ?_, fun h => ?_, fun snap h => ?_⟩
  · rw [hn, hsig]; exact hi.past
  · rw [hu, hsig, hd]; exact hi.deadline
  · rw [hu]; exact hi.snapshot snap (hsnap snap h)
  · rw [hc, hsu]; exact hi.checked
  · rw [hc]; exact hq h
  · rw [hsu]; exact hs h
  · rw [hn]; exact hp snap h

/-- A move of the worker's position alone, to one whose obligations hold. -/
theorem IdleInvariant.move (hi : s.IdleInvariant) {p : Pc}
    (hsnap : ∀ snap, p.snapshot? = some snap → s.pc.snapshot? = some snap)
    (hq : p.idleQuerying = true → s.worker.idleHintSupportIsChecked = false)
    (hs : p.idleSupported = true → s.worker.idleHintIsSupported = true)
    (hp : ∀ snap, p = .idleSend snap true → snap.deadlineTime < s.now) :
    ({ s with pc := p } : Threads).IdleInvariant :=
  hi.of_eq rfl rfl ⟨rfl, rfl, rfl⟩ hsnap hq hs hp

theorem IdleInvariant.takeSnapshot (hi : s.IdleInvariant) : s.takeSnapshot.IdleInvariant :=
  ⟨hi.past, hi.deadline, fun _ h => by cases h; exact hi.deadline, hi.checked, nofun, nofun,
    fun _ h => nomatch h⟩

theorem IdleInvariant.workerStep (hi : s.IdleInvariant) (hs : s.workerStep hal = some t) :
    t.IdleInvariant := by
  unfold Threads.workerStep at hs
  split at hs
  next hpc =>
    split at hs <;> cases hs
    · exact hi.takeSnapshot
    · exact hi.move nofun nofun nofun fun _ => nofun
  · cases hs
  next snap hpc =>
    have hsnap : ∀ x, some snap = some x → s.pc.snapshot? = some x := by
      rw [hpc]; exact fun _ h => h
    split at hs <;> cases hs
    · next hc =>
        split
        · next hsu => exact hi.move hsnap nofun (fun _ => hsu) fun _ => nofun
        · exact hi.move hsnap nofun nofun fun _ => nofun
    · next hc =>
        exact hi.move hsnap (fun _ => Bool.eq_false_iff.2 hc) nofun fun _ => nofun
  next snap hpc =>
    cases hs
    have h := checkPowerHalExtHintSupport_shared hal s.worker .displayIdle
    simp only [PowerHalHintWorker.shared, Prod.mk.injEq] at h
    exact hi.of_eq rfl rfl ⟨h.2.1, h.2.2.2.2.1, h.2.2.2.2.2.1⟩
      (by rw [hpc]; exact fun _ h => h) (fun _ => hi.querying (by rw [hpc]; rfl)) nofun
      fun _ => nofun
  next snap ret hpc =>
    have hc : s.worker.idleHintSupportIsChecked = false := hi.querying (by rw [hpc]; rfl)
    have hsu : s.worker.idleHintIsSupported = false :=
      Bool.eq_false_iff.2 fun h => absurd (hi.checked h) (by simp [hc])
    have hu : idleUnsupported s.worker = false := by simp [idleUnsupported, hc]
    have hsnap := (hi.snapshot snap (by rw [hpc]; rfl)).resolve_left (by simp [hu])
    split_ifs at hs <;> cases hs
    · refine ⟨hi.past, .inr ((hi.deadline).resolve_left (by simp [hu])), fun _ h => ?_,
        fun _ => rfl, nofun, fun _ => rfl, fun _ => nofun⟩
      cases h
      exact .inr hsnap
    · have hu' : idleUnsupported { s.worker with idleHintSupportIsChecked := true } = true := by
        simp [idleUnsupported, hsu]
      exact ⟨hi.past, .inl hu', fun _ _ => .inl hu', fun h => absurd h (by simp [hsu]), nofun,
        nofun, fun _ => nofun⟩
    · exact hi.move (by rw [hpc]; exact fun _ h => h) nofun nofun fun _ => nofun
  next snap hpc =>
    dsimp only at hs
    split_ifs at hs <;> cases hs
    · exact hi.move (by rw [hpc]; exact fun _ h => h) nofun
        (fun _ => hi.supported (by rw [hpc]; rfl)) fun _ h => by
          obtain ⟨rfl, he⟩ := Pc.idleSend.inj h
          exact of_decide_eq_true he
    · exact hi.move (by rw [hpc]; exact fun _ h => h) nofun nofun fun _ => nofun
  next snap enabled hpc =>
    cases hs
    have h := sendPowerHalExtHint_shared hal s.worker .displayIdle enabled
    simp only [PowerHalHintWorker.shared, Prod.mk.injEq] at h
    exact hi.of_eq rfl rfl (by split_ifs <;> exact ⟨h.2.1, h.2.2.2.2.1, h.2.2.2.2.2.1⟩)
      (by rw [hpc]; exact fun _ h => h) nofun nofun fun _ => nofun
  next snap hpc =>
    split_ifs at hs
    · have h := updateRefreshRateHintInternal_shared hal s.worker snap.powerMode snap.vsyncPeriod
      revert hs h
      obtain ⟨rc, w⟩ := updateRefreshRateHintInternal hal snap.powerMode snap.vsyncPeriod s.worker
      rintro ⟨⟩ h
      simp only [PowerHalHintWorker.shared, Prod.mk.injEq] at h
      exact hi.of_eq rfl rfl ⟨h.2.1, h.2.2.2.2.1, h.2.2.2.2.2.1⟩
        (by rw [hpc]; split_ifs <;> first | exact fun _ h => h | exact fun _ h => nomatch h)
        (by split_ifs <;> exact nofun)
        (by split_ifs <;> exact nofun) (by split_ifs <;> exact fun _ => nofun)
    · cases hs
      exact hi.move nofun nofun nofun fun _ => nofun
  next snap hpc =>
    cases hs
    exact hi.of_eq rfl rfl (by split_ifs <;> exact ⟨rfl, rfl, rfl⟩) nofun nofun nofun
      fun _ => nofun

theorem IdleInvariant.step (hi : s.IdleInvariant) {l : Label} (hs : s.step hal l = some t) :
    t.IdleInvariant := by
  cases l with
  | advance δ =>
      cases hs
      exact ⟨fun τ h => (hi.past τ h).trans (Nat.le_add_right _ _), hi.deadline, hi.snapshot,
        hi.checked, hi.querying, hi.supported,
        fun snap h => (hi.passed snap h).trans_le (Nat.le_add_right _ _)⟩
  | signalRefreshRate m v =>
      cases hs
      exact hi.of_eq rfl rfl ⟨rfl, rfl, rfl⟩ (fun _ h => h) hi.querying hi.supported hi.passed
  | signalIdle =>
      cases hs
      rw [signalIdle_eq]
      refine ⟨?_, ?_, hi.snapshot, hi.checked, hi.querying, hi.supported, hi.passed⟩
      · simpa using hi.past
      · dsimp only
        by_cases hu : idleUnsupported s.worker = true
        · exact .inl hu
        · have hn : ¬(s.worker.idleHintSupportIsChecked = true ∧
              ¬s.worker.idleHintIsSupported = true) := by
            simpa [idleUnsupported] using hu
          refine .inr fun τ hτ => ?_
          rw [if_neg hn]
          rcases List.mem_cons.1 hτ with rfl | hτ
          · exact le_refl _
          · exact Nat.add_le_add_right (hi.past τ hτ) _
  | worker => exact hi.workerStep hs
  | wake =>
      simp only [Threads.step] at hs
      split at hs
      · cases hs
        exact hi.takeSnapshot
      · cases hs

theorem Reachable.idleInvariant (h : Reachable hal s) : s.IdleInvariant := by
  obtain ⟨t₀, h⟩ := h
  induction h with
  | refl => exact init_idleInvariant t₀
  | tail _ hs ih =>
      obtain ⟨l, hs⟩ := hs
      exact ih.step hs

/-- From `idleSend snap enabled`, the worker's next step is the call
`setMode("DISPLAY_IDLE", enabled)`, at the current time. -/
theorem workerStep_idleSend {snap : Snapshot} {enabled : Bool} (hpc : s.pc = .idleSend snap enabled) :
    ∃ t, s.workerStep hal = some t ∧
      t.worker.calls = .setMode .displayIdle enabled (hal.reply s.worker.calls.length) ::
        s.worker.calls := by
  simp only [Threads.workerStep, hpc, sendPowerHalExtHint]
  exact ⟨_, rfl, by split_ifs <;> rfl⟩

/-- **The idle hint waits for quiet.** When the worker is about to send
`setMode("DISPLAY_IDLE", true)` at time `s.now`, every `signalIdle` that completed before
it last read `mIdleHintDeadlineTime` completed more than `nsecsIdleHintTimeout` earlier. -/
theorem idleHint_enabled_after_quiet_read (h : Reachable hal s) {snap : Snapshot}
    (hpc : s.pc = .idleSend snap true) :
    ∀ τ ∈ snap.idleSignals, τ + nsecsIdleHintTimeout < s.now := by
  have hi := h.idleInvariant
  have hsu : s.worker.idleHintIsSupported = true := hi.supported (by rw [hpc]; rfl)
  have hr := (hi.snapshot snap (by rw [hpc]; rfl)).resolve_left (by simp [idleUnsupported, hsu])
  exact fun τ hτ => (hr τ hτ).trans_lt (hi.passed snap hpc)

/-- A run against a service that accepts everything: a `signalIdle` at time `0`, a first
round that finds the idle hint supported, a timed wait past the deadline, then a second
`signalIdle` between the worker's copy of the deadline and its clock read. -/
def lateSignalLabels : List Label :=
  [.signalIdle, .worker, .wake, .worker, .worker, .worker, .worker, .worker, .worker,
    .advance (nsecsIdleHintTimeout + 1), .wake, .signalIdle, .worker, .worker]

/-- The state that run ends in. -/
def lateSignalState : Threads := (run .allOk lateSignalLabels (init 0)).get (by decide)

/-- The worker is about to send `setMode("DISPLAY_IDLE", true)` at time
`nsecsIdleHintTimeout + 1`, and a `signalIdle` completed at that very time. -/
theorem signal_after_read_enables_idle :
    lateSignalState.now = nsecsIdleHintTimeout + 1 ∧
      lateSignalState.idleSignals = [nsecsIdleHintTimeout + 1, 0] ∧
      (lateSignalState.workerStep .allOk).map (·.worker.calls.head?) =
        some (some (.setMode .displayIdle true .ok)) := by
  decide

theorem idleHint_enabled_after_quiet_read_late_signal :
    Reachable .allOk lateSignalState ∧
      lateSignalState.pc = .idleSend ⟨false, nsecsIdleHintTimeout, .off, 16666666, [0]⟩ true ∧
      ∀ τ ∈ [0], τ + nsecsIdleHintTimeout < lateSignalState.now :=
  ⟨reachable_of_run .allOk (Option.some_get _).symm, by decide,
    idleHint_enabled_after_quiet_read (reachable_of_run .allOk (Option.some_get _).symm)
      (show lateSignalState.pc = .idleSend ⟨false, nsecsIdleHintTimeout, .off, 16666666, [0]⟩ true
        by decide)⟩

end Threads

end HwcSession.PowerHint
