import HwcSession.PowerHint.Tracking

/-!
# Enable before disable

When the rate changes, `updateRefreshRateHintInternal` enables the new rate's hint
before it disables the previous one, and a previous hint that failed to go off is kept
as pending and retried first at the next update. Against a service that never restarts,
this ordering means that once some `REFRESH_<n>FPS` hint is enabled, no single call of
the worker leaves the service with none.

Two facts carry the proof. The switch only runs for a rate other than
`mPrevRefreshRate`, so disabling the previous hint never touches the one just enabled.
And while a disable is pending, `mPrevRefreshRate` differs from it and its hint is on
(`PendingHeld`), so the retry never removes the last hint.

## Main results

* `Reachable.pendingHeld`: `PendingHeld` holds in every reachable state.
* `refreshHint_kept_while_on`: every call of a run of updates at power mode `On` keeps
  some refresh rate hint enabled, if one was.
-/

namespace HwcSession.PowerHint

open HwcSession.Basic

/-! ## Keeping some refresh rate hint enabled -/

/-- Each call of `new` (newest first, made after the calls of `base`) leaves some
`REFRESH_<n>FPS` hint enabled if one was enabled right before it. -/
def KeepsRefreshHint (base : List HalCall) : List HalCall → Prop
  | [] => True
  | c :: cs => KeepsRefreshHint base cs ∧
      (AnyRefreshHint (cs ++ base) → AnyRefreshHint (c :: (cs ++ base)))

theorem KeepsRefreshHint.append {base new₁ new₂ : List HalCall}
    (h₁ : KeepsRefreshHint base new₁) (h₂ : KeepsRefreshHint (new₁ ++ base) new₂) :
    KeepsRefreshHint base (new₂ ++ new₁) := by
  induction new₂ with
  | nil => exact h₁
  | cons c cs ih =>
      rw [List.cons_append]
      exact ⟨ih h₂.1, by simpa only [List.append_assoc] using h₂.2⟩

/-- Every call the worker made between `w` and `w'` keeps some refresh rate hint
enabled, if one was. -/
def KeepsFrom (w w' : PowerHalHintWorker) : Prop :=
  ∃ new, w'.calls = new ++ w.calls ∧ KeepsRefreshHint w.calls new

namespace KeepsFrom

variable {w w₁ w₂ : PowerHalHintWorker}

theorem refl (w : PowerHalHintWorker) : KeepsFrom w w := ⟨[], rfl, trivial⟩

theorem trans (h₁ : KeepsFrom w w₁) (h₂ : KeepsFrom w₁ w₂) : KeepsFrom w w₂ := by
  obtain ⟨new₁, hc₁, hk₁⟩ := h₁
  obtain ⟨new₂, hc₂, hk₂⟩ := h₂
  exact ⟨new₂ ++ new₁, by rw [hc₂, hc₁, List.append_assoc], hk₁.append (hc₁ ▸ hk₂)⟩

theorem single (c : HalCall) (hw : w₁.calls = c :: w.calls)
    (h : AnyRefreshHint w.calls → AnyRefreshHint (c :: w.calls)) : KeepsFrom w w₁ :=
  ⟨[c], hw, trivial, h⟩

end KeepsFrom

/-! ## Single calls against a service that never restarts -/

variable {hal : PowerHal} {w w' : PowerHalHintWorker}

theorem PowerHal.allOk_neverRestarts : PowerHal.allOk.NeverRestarts :=
  fun _ => by simp [PowerHal.allOk]

/-- Calls that set no refresh rate hint keep every hint, hence some hint. -/
theorem IdleTraffic.keepsFrom (h : IdleTraffic hal w w') (hNR : hal.NeverRestarts) :
    KeepsFrom w w' := by
  obtain ⟨-, -, new, hcalls, hnew⟩ := h
  refine ⟨new, hcalls, ?_⟩
  clear hcalls
  induction new with
  | nil => trivial
  | cons c cs ih =>
      obtain ⟨hc, k, hk⟩ := hnew c (by simp)
      refine ⟨ih (fun c hc => hnew c (by simp [hc])), fun ⟨n, hn⟩ => ⟨n, ?_⟩⟩
      simp only [hintEnabled_cons, effect_of_setsNoRefreshHint hc, hk, ne_eq, hNR k,
        not_false_eq_true, decide_True, Bool.and_true, hn]

theorem sendRefreshRateHint_cases_of_neverRestarts (hNR : hal.NeverRestarts) (r : Int)
    (b : Bool) :
    sendRefreshRateHint hal r b w = (noError, w.record (.setMode (.refresh r) b .ok)) ∨
    sendRefreshRateHint hal r b w = (-eInval, w.record (.setMode (.refresh r) b .failed)) :=
  (sendRefreshRateHint_cases hal w r b).imp_right (·.resolve_right fun h => h.2 hNR)

theorem sendRefreshRateHint_bookkeeping (hNR : hal.NeverRestarts) (r : Int) (b : Bool) :
    (sendRefreshRateHint hal r b w).2.prevRefreshRate = w.prevRefreshRate ∧
      (sendRefreshRateHint hal r b w).2.pendingPrevRefreshRate = w.pendingPrevRefreshRate := by
  rcases sendRefreshRateHint_cases_of_neverRestarts hNR r b with h | h <;> rw [h] <;>
    exact ⟨rfl, rfl⟩

/-- A send of hint `r` leaves every other hint as it was. -/
theorem hintEnabled_sendRefreshRateHint_of_ne (hNR : hal.NeverRestarts) {n r : Int}
    (b : Bool) (hne : n ≠ r) :
    hintEnabled (.refresh n) (sendRefreshRateHint hal r b w).2.calls =
      hintEnabled (.refresh n) w.calls := by
  rcases sendRefreshRateHint_cases_of_neverRestarts hNR r b with h | h <;> rw [h] <;>
    simp [Ne.symm hne]

/-- A send of hint `r` that reports `NO_ERROR` has set it. -/
theorem hintEnabled_sendRefreshRateHint_self {r : Int} {b : Bool}
    (hret : (sendRefreshRateHint hal r b w).1 = noError) :
    hintEnabled (.refresh r) (sendRefreshRateHint hal r b w).2.calls = b := by
  rcases sendRefreshRateHint_cases hal w r b with h | h | ⟨h, -⟩ <;> rw [h] at hret ⊢
  · simp
  all_goals exact absurd hret (by simp)

theorem keepsFrom_sendRefreshRateHint_true (hNR : hal.NeverRestarts) (r : Int) :
    KeepsFrom w (sendRefreshRateHint hal r true w).2 := by
  rcases sendRefreshRateHint_cases_of_neverRestarts hNR r true with h | h <;> rw [h] <;>
    refine .single _ rfl fun ⟨n, hn⟩ => ?_
  · exact ⟨r, by simp⟩
  · exact ⟨n, by simpa using hn⟩

/-- Disabling hint `r` keeps an enabled hint `n ≠ r`. -/
theorem keepsFrom_sendRefreshRateHint_false (hNR : hal.NeverRestarts) {n r : Int}
    (hne : n ≠ r) (hn : hintEnabled (.refresh n) w.calls = true) :
    KeepsFrom w (sendRefreshRateHint hal r false w).2 := by
  rcases sendRefreshRateHint_cases_of_neverRestarts hNR r false with h | h <;> rw [h] <;>
    exact .single _ rfl fun _ => ⟨n, by simp [hn, Ne.symm hne]⟩

/-! ## The switch and the update -/

/-- The switch to a rate other than `mPrevRefreshRate`: the disable of the previous hint
comes after the new hint is on. -/
theorem keepsFrom_switchRefreshRateHint (hNR : hal.NeverRestarts) {r : Int}
    (hr : w.prevRefreshRate ≠ r) : KeepsFrom w (switchRefreshRateHint hal r w).2 := by
  have k₁ := keepsFrom_sendRefreshRateHint_true hNR r (w := w)
  have hon : (sendRefreshRateHint hal r true w).1 = noError →
      hintEnabled (.refresh r) (sendRefreshRateHint hal r true w).2.calls = true :=
    hintEnabled_sendRefreshRateHint_self
  have hprev := (sendRefreshRateHint_bookkeeping hNR r true (w := w)).1
  unfold switchRefreshRateHint
  rcases h₁ : sendRefreshRateHint hal r true w with ⟨ret, w₁⟩
  rw [h₁] at k₁ hon hprev
  dsimp only at k₁ hon hprev ⊢
  have k₂ : ret = noError →
      KeepsFrom w₁ (sendRefreshRateHint hal w₁.prevRefreshRate false w₁).2 := fun hret =>
    keepsFrom_sendRefreshRateHint_false hNR (hprev ▸ hr).symm (hon hret)
  split_ifs with hret <;> first | exact k₁ | exact k₁.trans (k₂ (not_not.1 hret))

/-- Enabling the hint for a vsync period: the support query touches no refresh rate hint,
and the switch runs only for a rate other than `mPrevRefreshRate`. -/
theorem keepsFrom_enableRefreshRateHint (hNR : hal.NeverRestarts) (v : Nat) :
    KeepsFrom w (enableRefreshRateHint hal v w).2 := by
  have hc := checkRefreshRateHintSupport_idleTraffic hal w (refreshRateOf v)
  unfold enableRefreshRateHint
  dsimp only
  split
  · exact .refl w
  · split
    · exact hc.keepsFrom hNR
    · exact (hc.keepsFrom hNR).trans (keepsFrom_switchRefreshRateHint hNR (hc.prev.trans_ne ‹_›))

/-! ## The pending disable -/

/-- While a disable is pending, `mPrevRefreshRate` is another rate and its hint is on. -/
def PendingHeld (w : PowerHalHintWorker) : Prop :=
  w.pendingPrevRefreshRate ≠ 0 → w.pendingPrevRefreshRate ≠ w.prevRefreshRate ∧
    hintEnabled (.refresh w.prevRefreshRate) w.calls = true

theorem pendingHeld_of_pending_eq_zero (h : w.pendingPrevRefreshRate = 0) : PendingHeld w :=
  fun h' => absurd h h'

theorem IdleTraffic.pendingHeld (h : IdleTraffic hal w w') (hNR : hal.NeverRestarts)
    (hq : PendingHeld w) : PendingHeld w' := by
  simpa only [PendingHeld, h.prev, h.pending, h.hint_eq hNR] using hq

theorem pendingHeld_switchRefreshRateHint (hNR : hal.NeverRestarts) {r : Int}
    (hp : w.pendingPrevRefreshRate = 0) (hr : w.prevRefreshRate ≠ r) :
    PendingHeld (switchRefreshRateHint hal r w).2 := by
  have hon : (sendRefreshRateHint hal r true w).1 = noError →
      hintEnabled (.refresh r) (sendRefreshRateHint hal r true w).2.calls = true :=
    hintEnabled_sendRefreshRateHint_self
  have hb := sendRefreshRateHint_bookkeeping hNR r true (w := w)
  unfold switchRefreshRateHint
  rcases h₁ : sendRefreshRateHint hal r true w with ⟨ret, w₁⟩
  rw [h₁] at hon hb
  dsimp only at hon hb ⊢
  have hb₂ := sendRefreshRateHint_bookkeeping hNR w₁.prevRefreshRate false (w := w₁)
  split_ifs with hret hprev h₂ h₃
  · exact pendingHeld_of_pending_eq_zero (hb.2.trans hp)
  · refine fun _ => ⟨hb.1 ▸ hr, ?_⟩
    show hintEnabled (.refresh r) (sendRefreshRateHint hal w₁.prevRefreshRate false w₁).2.calls = true
    rw [hintEnabled_sendRefreshRateHint_of_ne hNR false (hb.1 ▸ hr).symm]
    exact hon (not_not.1 hret)
  all_goals exact pendingHeld_of_pending_eq_zero (by simp only [hb₂.2, hb.2, hp])


theorem disableRefreshRateHint_pending (hNR : hal.NeverRestarts) :
    (disableRefreshRateHint hal w).2.pendingPrevRefreshRate = w.pendingPrevRefreshRate := by
  have hb := sendRefreshRateHint_bookkeeping hNR w.prevRefreshRate false (w := w)
  unfold disableRefreshRateHint
  dsimp only
  split_ifs <;> first | rfl | exact hb.2

theorem pendingHeld_enableRefreshRateHint (hNR : hal.NeverRestarts)
    (hp : w.pendingPrevRefreshRate = 0) (v : Nat) :
    PendingHeld (enableRefreshRateHint hal v w).2 := by
  have hc := checkRefreshRateHintSupport_idleTraffic hal w (refreshRateOf v)
  unfold enableRefreshRateHint
  dsimp only
  split
  · exact pendingHeld_of_pending_eq_zero hp
  · split
    · exact pendingHeld_of_pending_eq_zero (hc.pending.trans hp)
    · exact pendingHeld_switchRefreshRateHint hNR (hc.pending.trans hp) (hc.prev.trans_ne ‹_›)

theorem pendingHeld_updateRefreshRateHintInternal (hNR : hal.NeverRestarts)
    (hq : PendingHeld w) (m : PowerMode) (v : Nat) :
    PendingHeld (updateRefreshRateHintInternal hal m v w).2 := by
  have hgo : ∀ w', w'.pendingPrevRefreshRate = 0 →
      PendingHeld (if m ≠ .on then disableRefreshRateHint hal w'
        else enableRefreshRateHint hal v w').2 := fun w' hp' => by
    split
    · exact pendingHeld_of_pending_eq_zero ((disableRefreshRateHint_pending hNR).trans hp')
    · exact pendingHeld_enableRefreshRateHint hNR hp' v
  unfold updateRefreshRateHintInternal
  dsimp only
  split
  · rename_i hp
    have hb := sendRefreshRateHint_bookkeeping hNR w.pendingPrevRefreshRate false (w := w)
    split
    · exact hgo _ rfl
    · intro _
      rw [hb.1, hb.2, hintEnabled_sendRefreshRateHint_of_ne hNR false (hq hp).1.symm]
      exact hq hp
  · exact hgo w (not_not.1 ‹_›)

theorem WorkerStep.pendingHeld (hNR : hal.NeverRestarts) (hs : WorkerStep hal w w')
    (hq : PendingHeld w) : PendingHeld w' := by
  cases hs with
  | refreshRateHint m v => exact pendingHeld_updateRefreshRateHintInternal hNR hq m v
  | idleHint d now => exact (updateIdleHint_idleTraffic hal w d now).pendingHeld hNR hq
  | signalRefreshRate m v => exact (signalRefreshRate_idleTraffic hal w m v).pendingHeld hNR hq
  | signalIdle now => exact (signalIdle_idleTraffic hal w now).pendingHeld hNR hq
  | routine now =>
      obtain ⟨w₁, h₁, h | ⟨m, v, b, h⟩⟩ := routineBody_spec hal w now <;> rw [h]
      · exact h₁.pendingHeld hNR hq
      · exact pendingHeld_updateRefreshRateHintInternal hNR (h₁.pendingHeld hNR hq) m v

theorem Reachable.pendingHeld (hNR : hal.NeverRestarts) (h : Reachable hal w) :
    PendingHeld w := by
  induction h with
  | refl => exact pendingHeld_of_pending_eq_zero rfl
  | tail _ hs ih => exact hs.pendingHeld hNR ih

/-! ## Runs at power mode `On` -/

/-- An update at `On`: the retry of a pending disable keeps the hint of
`mPrevRefreshRate`. -/
theorem keepsFrom_updateRefreshRateHintInternal_on (hNR : hal.NeverRestarts)
    (hq : PendingHeld w) (v : Nat) :
    KeepsFrom w (updateRefreshRateHintInternal hal .on v w).2 := by
  unfold updateRefreshRateHintInternal
  simp only [ne_eq, not_true_eq_false, if_false]
  split
  · rename_i hp
    have k₁ := keepsFrom_sendRefreshRateHint_false hNR (hq hp).1.symm (hq hp).2 (w := w)
    split
    · exact k₁.trans (keepsFrom_enableRefreshRateHint hNR v)
    · exact k₁
  · exact keepsFrom_enableRefreshRateHint hNR v
/-- `updateRefreshRateHintInternal(On, v)` for each `v` of `vs`, in order. -/
def updatesWhileOn (hal : PowerHal) (vs : List Nat) (w : PowerHalHintWorker) :
    PowerHalHintWorker :=
  vs.foldl (fun w v => (updateRefreshRateHintInternal hal .on v w).2) w

/-- **Enable before disable.** Against a service that never restarts, from any reachable
worker state, every call of a run of updates at power mode `On` (any vsync periods) leaves
some `REFRESH_<n>FPS` hint enabled if one was enabled before it. -/
theorem refreshHint_kept_while_on (hNR : hal.NeverRestarts) (hw : Reachable hal w)
    (vs : List Nat) : KeepsFrom w (updatesWhileOn hal vs w) := by
  induction vs generalizing w with
  | nil => exact .refl w
  | cons v vs ih =>
      exact (keepsFrom_updateRefreshRateHintInternal_on hNR (hw.pendingHeld hNR) v).trans
        (ih (hw.tail (.refreshRateHint .on v w)))

theorem refreshHint_kept_while_on_sixty_ninety_sixty :
    PowerHal.allOk.NeverRestarts ∧ Reachable .allOk .init ∧
      KeepsFrom .init (updatesWhileOn .allOk [16666666, 11111111, 16666666] .init) :=
  ⟨PowerHal.allOk_neverRestarts, .refl,
    refreshHint_kept_while_on PowerHal.allOk_neverRestarts .refl _⟩

end HwcSession.PowerHint
