import HwcSession.PowerHint.Worker

/-!
# What each worker method does to the hints and the bookkeeping

Every later proof about the refresh rate hints goes through the lemmas of this module and
never unfolds a worker method again. There are two kinds of methods.

* `sendRefreshRateHint` is the only method that sets a `REFRESH_<n>FPS` hint. Its three
  outcomes, one per reply, are `sendRefreshRateHint_ok`, `_failed` and
  `_transactionFailed`.
* Every other call the worker makes (`isModeSupported`, and `setMode` of the idle hint)
  leaves the refresh rate hints alone, except that a transaction failure clears them
  all. `IdleTraffic w w'` says that `w'` is `w` after such calls with the refresh rate
  bookkeeping untouched; the support checks, the idle hint update and the two signal
  setters all produce `IdleTraffic`.
-/

namespace HwcSession.PowerHint

open HwcSession.Basic

namespace PowerHalHintWorker

variable (c : HalCall) (w : PowerHalHintWorker)

@[simp] theorem record_calls : (w.record c).calls = c :: w.calls := rfl
@[simp] theorem record_prevRefreshRate : (w.record c).prevRefreshRate = w.prevRefreshRate := rfl
@[simp] theorem record_pendingPrevRefreshRate :
    (w.record c).pendingPrevRefreshRate = w.pendingPrevRefreshRate := rfl

end PowerHalHintWorker

/-- The reply a logged call got. -/
def HalCall.reply : HalCall → Reply
  | .isModeSupported _ r _ => r
  | .setMode _ _ r => r

/-- The call sets no `REFRESH_<n>FPS` hint. -/
def HalCall.SetsNoRefreshHint : HalCall → Prop
  | .isModeSupported _ _ _ => True
  | .setMode m _ _ => m = .displayIdle

/-- A call that sets no refresh rate hint keeps each of them, unless it is the one that
saw the service restart. -/
theorem effect_of_setsNoRefreshHint {c : HalCall} (hc : c.SetsNoRefreshHint) (n : Int)
    (e : Bool) : c.effect (.refresh n) e = (e && decide (c.reply ≠ .transactionFailed)) := by
  cases c with
  | isModeSupported m r s => cases r <;> simp [HalCall.effect, HalCall.reply]
  | setMode m b r =>
      simp only [HalCall.SetsNoRefreshHint] at hc
      subst hc
      cases r <;> simp [HalCall.effect, HalCall.reply]

/-! ## Calls that leave the refresh rate hints alone -/

/-- `w'` is `w` after calls that set no refresh rate hint, each answered by `hal`, with
`mPrevRefreshRate` and `mPendingPrevRefreshRate` untouched. -/
structure IdleTraffic (hal : PowerHal) (w w' : PowerHalHintWorker) : Prop where
  prev : w'.prevRefreshRate = w.prevRefreshRate
  pending : w'.pendingPrevRefreshRate = w.pendingPrevRefreshRate
  calls : ∃ new, w'.calls = new ++ w.calls ∧
    ∀ c ∈ new, c.SetsNoRefreshHint ∧ ∃ k, c.reply = hal.reply k

namespace IdleTraffic

variable {hal : PowerHal} {w w₁ w₂ : PowerHalHintWorker}

theorem refl (w : PowerHalHintWorker) : IdleTraffic hal w w :=
  ⟨rfl, rfl, [], by simp, by simp⟩

theorem trans (h₁ : IdleTraffic hal w w₁) (h₂ : IdleTraffic hal w₁ w₂) :
    IdleTraffic hal w w₂ := by
  obtain ⟨hp₁, hq₁, new₁, hc₁, hn₁⟩ := h₁
  obtain ⟨hp₂, hq₂, new₂, hc₂, hn₂⟩ := h₂
  refine ⟨hp₂.trans hp₁, hq₂.trans hq₁, new₂ ++ new₁, by simp [hc₂, hc₁], ?_⟩
  intro c hc
  rcases List.mem_append.1 hc with h | h
  exacts [hn₂ c h, hn₁ c h]

/-- One call that sets no refresh rate hint. -/
theorem single (c : HalCall) (hc : c.SetsNoRefreshHint) (k : Nat) (hk : c.reply = hal.reply k)
    (hw : w' = w.record c) : IdleTraffic hal w w' :=
  ⟨by simp [hw], by simp [hw], [c], by simp [hw], by simpa using ⟨hc, k, hk⟩⟩

/-- Refresh rate hints only disappear. -/
theorem hint_of (h : IdleTraffic hal w w') (n : Int)
    (hn : hintEnabled (.refresh n) w'.calls = true) : hintEnabled (.refresh n) w.calls = true := by
  obtain ⟨-, -, new, hcalls, hnew⟩ := h
  rw [hcalls] at hn
  clear hcalls
  induction new with
  | nil => simpa using hn
  | cons c cs ih =>
      simp only [List.cons_append, hintEnabled_cons,
        effect_of_setsNoRefreshHint (hnew c (by simp)).1, Bool.and_eq_true] at hn
      exact ih hn.1 (fun c hc => hnew c (by simp [hc]))

/-- Against a service that never restarts, the refresh rate hints are unchanged. -/
theorem hint_eq (h : IdleTraffic hal w w') (hNR : hal.NeverRestarts) (n : Int) :
    hintEnabled (.refresh n) w'.calls = hintEnabled (.refresh n) w.calls := by
  obtain ⟨-, -, new, hcalls, hnew⟩ := h
  rw [hcalls]
  clear hcalls
  induction new with
  | nil => rfl
  | cons c cs ih =>
      obtain ⟨hc, k, hk⟩ := hnew c (by simp)
      simp only [List.cons_append, hintEnabled_cons, effect_of_setsNoRefreshHint hc, hk,
        ne_eq, hNR k, not_false_eq_true, decide_True, Bool.and_true]
      exact ih (fun c hc => hnew c (by simp [hc]))

end IdleTraffic

variable (hal : PowerHal) (w : PowerHalHintWorker)

theorem checkPowerHalExtHintSupport_idleTraffic (m : Hint) :
    IdleTraffic hal w (checkPowerHalExtHintSupport hal m w).2 := by
  refine IdleTraffic.single (.isModeSupported m (hal.reply w.calls.length)
    (hal.supported w.calls.length)) trivial w.calls.length rfl ?_
  unfold checkPowerHalExtHintSupport
  dsimp only
  split <;> rfl

theorem sendPowerHalExtHint_idle_idleTraffic (b : Bool) :
    IdleTraffic hal w (sendPowerHalExtHint hal .displayIdle b w).2 :=
  IdleTraffic.single (.setMode .displayIdle b (hal.reply w.calls.length)) rfl
    w.calls.length rfl rfl

theorem checkRefreshRateHintSupport_idleTraffic (r : Int) :
    IdleTraffic hal w (checkRefreshRateHintSupport hal r w).2 := by
  have h := checkPowerHalExtHintSupport_idleTraffic hal w (.refresh r)
  unfold checkRefreshRateHintSupport
  split
  · dsimp only
    split
    · exact ⟨h.prev, h.pending, h.calls⟩
    · exact h
  · exact IdleTraffic.refl w

theorem checkIdleHintSupport_idleTraffic :
    IdleTraffic hal w (checkIdleHintSupport hal w).2 := by
  have h := checkPowerHalExtHintSupport_idleTraffic hal w .displayIdle
  unfold checkIdleHintSupport
  split
  · exact IdleTraffic.refl w
  · dsimp only
    split
    · exact ⟨h.prev, h.pending, h.calls⟩
    · split
      · exact ⟨h.prev, h.pending, h.calls⟩
      · exact h

theorem updateIdleHint_idleTraffic (deadlineTime now : Nat) :
    IdleTraffic hal w (updateIdleHint hal deadlineTime now w).2 := by
  have h₁ := checkIdleHintSupport_idleTraffic hal w
  unfold updateIdleHint
  dsimp only
  split
  · exact h₁
  · split
    · have h₂ := h₁.trans (sendPowerHalExtHint_idle_idleTraffic hal
        (checkIdleHintSupport hal w).2 (decide (deadlineTime < now)))
      split
      · exact ⟨h₂.prev, h₂.pending, h₂.calls⟩
      · exact h₂
    · exact h₁

theorem signalRefreshRate_idleTraffic (m : PowerMode) (v : Nat) :
    IdleTraffic hal w (signalRefreshRate m v w) :=
  ⟨rfl, rfl, [], by simp [signalRefreshRate], by simp⟩

theorem signalIdle_idleTraffic (now : Nat) : IdleTraffic hal w (signalIdle now w) := by
  unfold signalIdle
  split
  · exact IdleTraffic.refl w
  · exact ⟨rfl, rfl, [], by simp, by simp⟩

/-- A round of `Routine` is an idle hint update, then, when a refresh rate update was
signalled, one `updateRefreshRateHintInternal`; beyond that it only sets the update flag. -/
theorem routineBody_spec (now : Nat) : ∃ w₁, IdleTraffic hal w w₁ ∧
    (routineBody hal now w = w₁ ∨ ∃ m v b, routineBody hal now w =
      { (updateRefreshRateHintInternal hal m v w₁).2 with needUpdateRefreshRateHint := b }) := by
  have h₀ : IdleTraffic hal w { w with needUpdateRefreshRateHint := false } :=
    ⟨rfl, rfl, [], by simp, by simp⟩
  refine ⟨_, h₀.trans (updateIdleHint_idleTraffic hal { w with needUpdateRefreshRateHint := false }
      w.idleHintDeadlineTime now), ?_⟩
  unfold routineBody
  dsimp only
  split
  · right
    split
    · exact ⟨_, _, true, rfl⟩
    · exact ⟨_, _, _, rfl⟩
  · exact .inl rfl

/-! ## The members other threads share

`signalRefreshRate` and `signalIdle` write `mPowerModeState`, `mVsyncPeriod`,
`mNeedUpdateRefreshRateHint` and `mIdleHintDeadlineTime` under the lock, and read the idle
hint's support flags. No binder call the worker makes writes any of them, nor
`mIdleHintIsEnabled`, and neither does the refresh rate update. -/

namespace PowerHalHintWorker

/-- The members no binder call and no refresh rate update writes. -/
def shared (w : PowerHalHintWorker) : Bool × Nat × PowerMode × Nat × Bool × Bool × Bool :=
  (w.needUpdateRefreshRateHint, w.idleHintDeadlineTime, w.powerModeState, w.vsyncPeriod,
    w.idleHintSupportIsChecked, w.idleHintIsSupported, w.idleHintIsEnabled)

@[simp] theorem record_shared (c : HalCall) (w : PowerHalHintWorker) :
    (w.record c).shared = w.shared := rfl

end PowerHalHintWorker

theorem checkPowerHalExtHintSupport_shared (m : Hint) :
    (checkPowerHalExtHintSupport hal m w).2.shared = w.shared := by
  unfold checkPowerHalExtHintSupport
  dsimp only
  split <;> rfl

theorem sendPowerHalExtHint_shared (m : Hint) (b : Bool) :
    (sendPowerHalExtHint hal m b w).2.shared = w.shared := rfl

/-! ## `sendRefreshRateHint` -/

/-- The three outcomes of `sendRefreshRateHint r b`, one per reply; the last, where the
bookkeeping is reset, needs a service that can restart. -/
theorem sendRefreshRateHint_cases (r : Int) (b : Bool) :
    sendRefreshRateHint hal r b w = (noError, w.record (.setMode (.refresh r) b .ok)) ∨
    sendRefreshRateHint hal r b w = (-eInval, w.record (.setMode (.refresh r) b .failed)) ∨
    (sendRefreshRateHint hal r b w =
      (-eNotConn, { w.record (.setMode (.refresh r) b .transactionFailed) with
                    prevRefreshRate := 0, pendingPrevRefreshRate := 0 }) ∧
      ¬hal.NeverRestarts) := by
  unfold sendRefreshRateHint sendPowerHalExtHint
  rcases h : hal.reply w.calls.length with _ | _ | _
  · exact .inl (by simp [statusOf, noError, eNotConn])
  · exact .inr (.inl (by simp [statusOf, eInval, eNotConn]))
  · exact .inr (.inr ⟨by simp [statusOf], fun hNR => hNR _ h⟩)

theorem sendRefreshRateHint_shared (r : Int) (b : Bool) :
    (sendRefreshRateHint hal r b w).2.shared = w.shared := by
  rcases sendRefreshRateHint_cases hal w r b with h | h | ⟨h, -⟩ <;> rw [h] <;> rfl

theorem checkRefreshRateHintSupport_shared (r : Int) :
    (checkRefreshRateHintSupport hal r w).2.shared = w.shared := by
  have h := checkPowerHalExtHintSupport_shared hal w (.refresh r)
  unfold checkRefreshRateHintSupport
  split
  · revert h
    obtain ⟨ret, w'⟩ := checkPowerHalExtHintSupport hal (.refresh r) w
    intro h
    dsimp only
    split <;> exact h
  · rfl

theorem disableRefreshRateHint_shared : (disableRefreshRateHint hal w).2.shared = w.shared := by
  have h := sendRefreshRateHint_shared hal w w.prevRefreshRate false
  unfold disableRefreshRateHint
  split
  · revert h
    obtain ⟨ret, w'⟩ := sendRefreshRateHint hal w.prevRefreshRate false w
    intro h
    dsimp only
    split <;> exact h
  · rfl

theorem switchRefreshRateHint_shared (r : Int) :
    (switchRefreshRateHint hal r w).2.shared = w.shared := by
  have h := sendRefreshRateHint_shared hal w r true
  unfold switchRefreshRateHint
  revert h
  obtain ⟨ret, w'⟩ := sendRefreshRateHint hal r true w
  intro h
  dsimp only
  split
  · exact h
  · split
    · have h₂ := sendRefreshRateHint_shared hal w' w'.prevRefreshRate false
      revert h₂
      obtain ⟨ret₂, w''⟩ := sendRefreshRateHint hal w'.prevRefreshRate false w'
      intro h₂
      dsimp only
      split_ifs <;> exact h₂.trans h
    · exact h

theorem enableRefreshRateHint_shared (v : Nat) :
    (enableRefreshRateHint hal v w).2.shared = w.shared := by
  have h := checkRefreshRateHintSupport_shared hal w (refreshRateOf v)
  unfold enableRefreshRateHint
  dsimp only
  split
  · rfl
  · revert h
    obtain ⟨ret, w'⟩ := checkRefreshRateHintSupport hal (refreshRateOf v) w
    intro h
    dsimp only
    split
    · exact h
    · exact (switchRefreshRateHint_shared hal w' _).trans h

theorem updateRefreshRateHintInternal_shared (m : PowerMode) (v : Nat) :
    (updateRefreshRateHintInternal hal m v w).2.shared = w.shared := by
  have hgo : ∀ w', (if m ≠ .on then disableRefreshRateHint hal w'
      else enableRefreshRateHint hal v w').2.shared = w'.shared := fun w' => by
    split
    · exact disableRefreshRateHint_shared hal w'
    · exact enableRefreshRateHint_shared hal w' v
  have h := sendRefreshRateHint_shared hal w w.pendingPrevRefreshRate false
  unfold updateRefreshRateHintInternal
  dsimp only
  split
  · revert h
    obtain ⟨ret, w'⟩ := sendRefreshRateHint hal w.pendingPrevRefreshRate false w
    intro h
    dsimp only
    split
    · exact (hgo _).trans h
    · exact h
  · exact hgo w

/-- A `setMode(…, false)` call never turns a hint on. -/
theorem hint_of_setMode_false {h m : Hint} {reply : Reply} {cs : List HalCall}
    (he : hintEnabled h (.setMode m false reply :: cs) = true) :
    hintEnabled h cs = true ∧ (reply = .ok → m ≠ h) := by
  cases reply <;> simp only [hintEnabled_cons, HalCall.effect] at he
  · by_cases hm : m = h <;> simp_all
  · simp [he]
  · simp at he

/-- After a `setMode(…, true)` call, an enabled hint is the one just set or was enabled
before. -/
theorem hint_of_setMode_true {h m : Hint} {reply : Reply} {cs : List HalCall}
    (he : hintEnabled h (.setMode m true reply :: cs) = true) :
    m = h ∨ hintEnabled h cs = true := by
  cases reply <;> simp only [hintEnabled_cons, HalCall.effect] at he
  · by_cases hm : m = h <;> simp_all
  · exact .inr he
  · simp at he

end HwcSession.PowerHint
