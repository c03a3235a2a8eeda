import HwcSession.PowerHint.Frame

/-!
# Every enabled refresh rate hint is one the worker knows about

`mPrevRefreshRate` and `mPendingPrevRefreshRate` are the worker's record of the
`REFRESH_<n>FPS` hints it has left enabled, `0` standing for none. `Tracked w` says that
the record covers the service: every enabled hint of nonzero rate is one of the two. It
holds along every run of the worker against every service, restarts included, since a
restart only ever removes hints.

The rate `0` is where the record and the service part. `refreshRateOf` is `0` for long
vsync periods (a 1 s period gives `round(0.1f) * 10 = 0`); the worker then enables
`REFRESH_0FPS` and records it as `0`, which reads as "no hint", so nothing ever disables it
(`refreshRateZero_untracked`). And a restart seen by the support query clears the hints
but not the record, so a later update back to the recorded rate reports success with
no hint enabled (`restart_in_support_check_loses_hint`).

## Main results

* `WorkerStep.tracked`: each worker method keeps `Tracked`.
* `tracked_of_reachable`: every reachable worker state is `Tracked`.
-/

namespace HwcSession.PowerHint

open HwcSession.Basic

/-! ## Runs of the worker -/

/-- One call into the worker: either of the two updates `Routine` makes, either signal
setter, or a whole round of `Routine`. -/
inductive WorkerStep (hal : PowerHal) : PowerHalHintWorker → PowerHalHintWorker → Prop
  | refreshRateHint (m : PowerMode) (v : Nat) (w : PowerHalHintWorker) :
      WorkerStep hal w (updateRefreshRateHintInternal hal m v w).2
  | idleHint (deadlineTime now : Nat) (w : PowerHalHintWorker) :
      WorkerStep hal w (updateIdleHint hal deadlineTime now w).2
  | signalRefreshRate (m : PowerMode) (v : Nat) (w : PowerHalHintWorker) :
      WorkerStep hal w (signalRefreshRate m v w)
  | signalIdle (now : Nat) (w : PowerHalHintWorker) : WorkerStep hal w (signalIdle now w)
  | routine (now : Nat) (w : PowerHalHintWorker) : WorkerStep hal w (routineBody hal now w)

/-- The worker states reachable from the constructor's. -/
def Reachable (hal : PowerHal) (w : PowerHalHintWorker) : Prop :=
  Relation.ReflTransGen (WorkerStep hal) PowerHalHintWorker.init w

/-! ## The invariant -/

/-- Every enabled `REFRESH_<n>FPS` hint with `n ≠ 0` is `mPrevRefreshRate` or
`mPendingPrevRefreshRate`. -/
def Tracked (w : PowerHalHintWorker) : Prop :=
  ∀ n, n ≠ 0 → hintEnabled (.refresh n) w.calls = true →
    n = w.prevRefreshRate ∨ n = w.pendingPrevRefreshRate

variable {hal : PowerHal} {w w' : PowerHalHintWorker}

theorem tracked_init : Tracked PowerHalHintWorker.init :=
  fun _ _ he => absurd he (by simp [PowerHalHintWorker.init])

theorem IdleTraffic.tracked (h : IdleTraffic hal w w') (ht : Tracked w) : Tracked w' := by
  intro n hn he
  rw [h.prev, h.pending]
  exact ht n hn (h.hint_of n he)

/-- A disable, whatever its reply, keeps every hint tracked. -/
theorem tracked_sendRefreshRateHint_false (ht : Tracked w) (r : Int) :
    Tracked (sendRefreshRateHint hal r false w).2 := by
  rcases sendRefreshRateHint_cases hal w r false with h | h | ⟨h, -⟩ <;> rw [h] <;>
    intro n hn he <;>
    simp only [PowerHalHintWorker.record_calls, PowerHalHintWorker.record_prevRefreshRate,
      PowerHalHintWorker.record_pendingPrevRefreshRate, hintEnabled_cons, effect_setMode_ok,
      effect_setMode_failed, effect_transactionFailed_setMode, Hint.refresh.injEq] at he ⊢
  · split_ifs at he
    exact ht n hn he
  · exact ht n hn he
  · exact absurd he Bool.false_ne_true

theorem tracked_disableRefreshRateHint (ht : Tracked w) :
    Tracked (disableRefreshRateHint hal w).2 := by
  unfold disableRefreshRateHint
  split
  · have hs : Tracked (sendRefreshRateHint hal w.prevRefreshRate false w).2 :=
      tracked_sendRefreshRateHint_false ht _
    rcases sendRefreshRateHint_cases hal w w.prevRefreshRate false with h | h | ⟨h, -⟩ <;>
      rw [h] at hs ⊢ <;>
      simp only [if_true, neg_eInval_ne_noError, neg_eNotConn_ne_noError, if_false]
    · intro n hn he
      simp only [PowerHalHintWorker.record_calls, PowerHalHintWorker.record_pendingPrevRefreshRate,
        hintEnabled_cons, effect_setMode_ok, Hint.refresh.injEq] at he ⊢
      split_ifs at he with hq
      rcases ht n hn he with h | h
      · exact absurd h.symm hq
      · exact .inr h
    all_goals exact hs
  · exact ht

/-- The switch keeps every hint tracked when nothing is pending: the new rate becomes
`mPrevRefreshRate`, and a previous hint that failed to go off becomes the pending one. -/
theorem tracked_switchRefreshRateHint (ht : Tracked w) (hp : w.pendingPrevRefreshRate = 0)
    (r : Int) : Tracked (switchRefreshRateHint hal r w).2 := by
  unfold switchRefreshRateHint
  rcases sendRefreshRateHint_cases hal w r true with h | h | ⟨h, -⟩ <;> rw [h] <;>
    simp only [ne_eq, not_true_eq_false, if_false, neg_eInval_ne_noError,
      neg_eNotConn_ne_noError, not_false_eq_true, if_true,
      PowerHalHintWorker.record_prevRefreshRate]
  on_goal 1 =>
    split
    on_goal 1 =>
      rcases sendRefreshRateHint_cases hal (w.record (.setMode (.refresh r) true .ok))
        w.prevRefreshRate false with h₂ | h₂ | ⟨h₂, -⟩ <;> rw [h₂] <;>
        simp only [ne_eq, not_true_eq_false, if_false, neg_eInval_ne_noError,
          neg_eNotConn_ne_noError, not_false_eq_true, if_true, neg_eInval_ne_neg_eNotConn]
  all_goals
    intro n hn he
    simp only [PowerHalHintWorker.record_calls, PowerHalHintWorker.record_prevRefreshRate,
      PowerHalHintWorker.record_pendingPrevRefreshRate, hintEnabled_cons, effect_setMode_ok,
      effect_setMode_failed, effect_transactionFailed_setMode, Hint.refresh.injEq] at he ⊢
    (try split_ifs at he) <;>
      first
      | exact absurd he Bool.false_ne_true
      | omega
      | (rcases ht n hn he with h | h <;> omega)

theorem tracked_enableRefreshRateHint (ht : Tracked w) (hp : w.pendingPrevRefreshRate = 0)
    (v : Nat) : Tracked (enableRefreshRateHint hal v w).2 := by
  have hc := checkRefreshRateHintSupport_idleTraffic hal w (refreshRateOf v)
  unfold enableRefreshRateHint
  dsimp only
  split
  · exact ht
  · split
    · exact hc.tracked ht
    · exact tracked_switchRefreshRateHint (hc.tracked ht) (hc.pending.trans hp) _

/-- A successful retry of the pending disable leaves only `mPrevRefreshRate` to track. -/
theorem tracked_retirePending (ht : Tracked w) :
    Tracked { w.record (.setMode (.refresh w.pendingPrevRefreshRate) false .ok) with
      pendingPrevRefreshRate := 0 } := by
  intro n hn he
  simp only [PowerHalHintWorker.record_calls, hintEnabled_cons, effect_setMode_ok,
    Hint.refresh.injEq] at he ⊢
  split_ifs at he with hq
  rcases ht n hn he with h | h
  · exact .inl h
  · exact absurd h.symm hq

theorem tracked_updateRefreshRateHintInternal (ht : Tracked w) (m : PowerMode) (v : Nat) :
    Tracked (updateRefreshRateHintInternal hal m v w).2 := by
  have hgo : ∀ w', Tracked w' → w'.pendingPrevRefreshRate = 0 →
      Tracked (if m ≠ .on then disableRefreshRateHint hal w'
        else enableRefreshRateHint hal v w').2 := fun w' ht' hp' => by
    split
    · exact tracked_disableRefreshRateHint ht'
    · exact tracked_enableRefreshRateHint ht' hp' v
  unfold updateRefreshRateHintInternal
  dsimp only
  split
  · have hs : Tracked (sendRefreshRateHint hal w.pendingPrevRefreshRate false w).2 :=
      tracked_sendRefreshRateHint_false ht _
    rcases sendRefreshRateHint_cases hal w w.pendingPrevRefreshRate false with
      h | h | ⟨h, -⟩ <;> rw [h] at hs ⊢ <;>
      simp only [if_true, neg_eInval_ne_noError, neg_eNotConn_ne_noError, if_false]
    · exact hgo _ (tracked_retirePending ht) rfl
    all_goals exact hs
  · exact hgo w ht (not_not.1 ‹_›)

/-- Each worker method keeps every enabled hint tracked. -/
theorem WorkerStep.tracked (hs : WorkerStep hal w w') (ht : Tracked w) : Tracked w' := by
  cases hs with
  | refreshRateHint m v => exact tracked_updateRefreshRateHintInternal ht m v
  | idleHint d now => exact (updateIdleHint_idleTraffic hal w d now).tracked ht
  | signalRefreshRate m v => exact (signalRefreshRate_idleTraffic hal w m v).tracked ht
  | signalIdle now => exact (signalIdle_idleTraffic hal w now).tracked ht
  | routine now =>
      obtain ⟨w₁, h₁, h | ⟨m, v, b, h⟩⟩ := routineBody_spec hal w now <;> rw [h]
      · exact h₁.tracked ht
      · exact tracked_updateRefreshRateHintInternal (h₁.tracked ht) m v

/-- **Tracking.** Against any service, restarts and failures included, every
`REFRESH_<n>FPS` hint with `n ≠ 0` enabled in a reachable state is `mPrevRefreshRate` or
`mPendingPrevRefreshRate`; so at most two are enabled. -/
theorem tracked_of_reachable (h : Reachable hal w) : Tracked w := by
  induction h with
  | refl => exact tracked_init
  | tail _ hs ih => exact hs.tracked ih

theorem tracked_after_sixty :
    Reachable .allOk (updateRefreshRateHintInternal .allOk .on 16666666 .init).2 ∧
      Tracked (updateRefreshRateHintInternal .allOk .on 16666666 .init).2 :=
  ⟨.single (.refreshRateHint .on 16666666 _),
    tracked_of_reachable (.single (.refreshRateHint .on 16666666 _))⟩

/-! ## What `Tracked` leaves out -/

/-- `updateRefreshRateHintInternal` for each (power mode, vsync period) of `ps`, in
order. -/
def runUpdates (hal : PowerHal) (ps : List (PowerMode × Nat)) (w : PowerHalHintWorker) :
    PowerHalHintWorker :=
  ps.foldl (fun w p => (updateRefreshRateHintInternal hal p.1 p.2 w).2) w

/-- A 1 s vsync period gives the rate `0`. Switching to it from 60 Hz leaves
`REFRESH_0FPS` enabled while both records read "no hint". -/
theorem refreshRateZero_untracked :
    hintEnabled (.refresh 0)
        (runUpdates .allOk [(.on, 16666666), (.on, 1000000000)] .init).calls = true ∧
      (runUpdates .allOk [(.on, 16666666), (.on, 1000000000)] .init).prevRefreshRate = 0 ∧
      (runUpdates .allOk [(.on, 16666666), (.on, 1000000000)] .init).pendingPrevRefreshRate =
        0 := by
  decide

/-- A service that restarts at its `k`-th call and accepts every other one. -/
def PowerHal.restartAt (k : Nat) : PowerHal :=
  ⟨fun n => if n = k then .transactionFailed else .ok, fun _ => true⟩

/-- 60 Hz, then 90 Hz with the service restarting at the support query for 90 Hz, then
60 Hz again: the last update reports `NO_ERROR`, yet no hint is enabled, because the
restart left `mPrevRefreshRate` at 60. -/
theorem restart_in_support_check_loses_hint :
    (updateRefreshRateHintInternal (.restartAt 2) .on 16666666
        (runUpdates (.restartAt 2) [(.on, 16666666), (.on, 11111111)] .init)).1 = noError ∧
      hintEnabled (.refresh 60) (runUpdates (.restartAt 2)
        [(.on, 16666666), (.on, 11111111), (.on, 16666666)] .init).calls = false := by
  decide

end HwcSession.PowerHint
