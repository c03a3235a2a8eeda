import HwcSession.Pipeline.Frame

/-!
# The sequence locks between the frame calls and the QService commands

`ValidateDisplay` and `PresentDisplay` run on the composer's thread, and the QService
commands (`GetDisplayAttributesForConfig`, `ConfigureRefreshRate`, `SetDisplayMode`,
`SetMaxMixerStages`, `SetFrameDumpConfig`, `SetMixerResolution`, `GetVisibleDisplayRect`)
on binder threads. They meet at the slots' `Locker`s: `ValidateDisplay` enters its slot's
sequence, `PresentDisplay` exits it, each cancels it on an error (a `PresentDisplay` that
returns early on a null pointer exits without cancelling), and a command waits in
`SEQUENCE_WAIT_SCOPE_LOCK` while the sequence of its slot is entered. The exit and cancel
regions end with a `Broadcast()`; the entry region does not.

This module takes the frame calls apart at their lock regions and interleaves them with
any number of waiting commands, each on a fixed slot (`slot j` for thread `j`). A waiter
whose wait returns re-checks the sequence, and the model lets a blocked waiter wake at any
step, as a condition variable may. `woken` marks a waiter that a `Broadcast()` has reached
since it blocked. Every other operation (`Op.frame = false`) may run between any two
steps. The client's completed frame calls are kept, newest first; the code keeps no such
record, and it is there so that a slot's last frame call can be read off a configuration.

## Main results

* `waiter_runs_outside_sequence`: a command's section never runs on a slot whose last
  frame call is a `ValidateDisplay` that returned `None` or `HasChanges`: the
  validated frame is presented before any command touches the display.
* `blocked_waiter_sequence_open`: a command blocked and not woken waits on a slot whose
  sequence is open, so once a slot's frame has been presented, or its validation has
  failed and been cancelled, no command stays asleep on it.
-/

namespace HwcSession.Pipeline

open HwcSession.Basic HwcSession.Session

/-- A frame call of the client, with its display and the status of its first region. -/
inductive FrameCall where
  | validate (display : Nat) (status : Hwc2Error)
  | present (display : Nat) (status : Hwc2Error)
  deriving DecidableEq, Repr

/-- The display of a frame call. -/
def FrameCall.display : FrameCall → Nat
  | .validate d _ | .present d _ => d

/-- The last frame call on `display` in `calls`, newest first. -/
def lastCall (calls : List FrameCall) (display : Nat) : Option FrameCall :=
  calls.find? (·.display = display)

@[simp] theorem lastCall_nil (display : Nat) : lastCall [] display = none := rfl

theorem lastCall_cons_self (k : FrameCall) (calls : List FrameCall) :
    lastCall (k :: calls) k.display = some k := by
  simp [lastCall]

theorem lastCall_cons_of_ne {k : FrameCall} {display : Nat} (h : k.display ≠ display)
    (calls : List FrameCall) : lastCall (k :: calls) display = lastCall calls display := by
  simp [lastCall, h]

/-- Where the client thread is: between calls, or between the lock regions of a frame call
on `display`. -/
inductive ClientPc where
  | ready
  /-- `ValidateDisplay` has entered the sequence and will cancel it. -/
  | validateCancel (display : Nat)
  /-- `PresentDisplay` has exited the sequence and will cancel it. -/
  | presentCancel (display : Nat) (status : Hwc2Error)
  /-- `PresentDisplay` is past its regions: the idle signal, the primary's first present and
  `HandlePendingRefresh` are left. -/
  | presentFinish (display : Nat) (status : Hwc2Error)
  deriving DecidableEq, Repr

/-- Where a QService thread is in `SEQUENCE_WAIT_SCOPE_LOCK`. -/
inductive WaiterPc where
  | start
  /-- In `Wait()`; `woken` once a `Broadcast()` has reached it. -/
  | blocked (woken : Bool)
  /-- Its section has run. -/
  | done
  deriving DecidableEq, Repr

/-- `Broadcast()` reaches a blocked waiter. -/
def WaiterPc.wake : WaiterPc → WaiterPc
  | .blocked _ => .blocked true
  | pc => pc

/-- The session with the client thread, the QService threads and the client's frame calls,
newest first. -/
structure Frames where
  pipe : State
  client : ClientPc
  waiters : Nat → WaiterPc
  calls : List FrameCall

/-- One step of a run. -/
inductive Label where
  /-- The entry region of `ValidateDisplay(display)`. -/
  | validateDisplay (display : Nat) (r : DisplayReplies)
  /-- The exit region of `PresentDisplay(device, display, out_retire_fence)`. -/
  | presentDisplay (device : Bool) (display : Nat) (retireFence : Bool) (r : DisplayReplies)
  /-- The cancel region of the client's frame call. -/
  | cancel
  /-- The end of `PresentDisplay`, at monotonic time `now`. -/
  | finish (now : Nat) (f : Factory) (hwDisplaysInfo : Option (List HwDisplayInfo))
  /-- A lock region of QService thread `j`. -/
  | waiter (j : Nat)
  /-- Another operation: a client call, or a uevent round. -/
  | other (op : Op)

/-- A display whose validation reports changes. -/
def DisplayReplies.changes : DisplayReplies := { DisplayReplies.plain with validate := .hasChanges }

namespace Frames

variable (lim : Limits) (slot : Nat → Nat)

/-- `Broadcast()` on `locker_[display]`. -/
def broadcast (display : Nat) (waiters : Nat → WaiterPc) : Nat → WaiterPc :=
  fun j => if slot j = display then (waiters j).wake else waiters j

/-- A lock region of waiter `j`: it sleeps while its slot's sequence is entered, and runs
its section otherwise. -/
def waitRegion (c : Frames) (j : Nat) : WaiterPc :=
  if c.pipe.sequenceWait (slot j) = .entered then .blocked false else .done

/-- The session after `Init`, with no thread in a call. -/
def init (p : State) : Frames := ⟨p, .ready, fun _ => .start, []⟩

/-- The state after one step; `none` when the step cannot be taken. -/
def step : Label → Frames → Option Frames
  | .validateDisplay d r, c =>
      if c.client ≠ .ready then none
      else if lim.kNumDisplays ≤ d then some c
      else
        let (status, p) := validateEntry d r c.pipe
        some { c with pipe := p, calls := .validate d status :: c.calls,
                      client := if validateCancels status then .validateCancel d else .ready }
  | .presentDisplay dev d ret r, c =>
      if c.client ≠ .ready then none
      else if lim.kNumDisplays ≤ d then some c
      else
        match presentPointers dev ret with
        | some error =>
            some { c with pipe := c.pipe.setSequenceWait d .idle, calls := .present d error :: c.calls,
                          waiters := broadcast slot d c.waiters }
        | none =>
            let (status, p) := presentExit d r c.pipe
            some { c with pipe := p, calls := .present d status :: c.calls,
                          waiters := broadcast slot d c.waiters,
                          client := if presentCancels status then .presentCancel d status
                            else .presentFinish d status }
  | .cancel, c =>
      match c.client with
      | .validateCancel d =>
          some { c with pipe := cancelSequence d c.pipe, waiters := broadcast slot d c.waiters,
                        client := .ready }
      | .presentCancel d status =>
          some { c with pipe := cancelSequence d c.pipe, waiters := broadcast slot d c.waiters,
                        client := .presentFinish d status }
      | _ => none
  | .finish now f i, c =>
      match c.client with
      | .presentFinish d status =>
          (presentFinish lim f i d now status c.pipe).map fun r =>
            { c with pipe := r.2, client := .ready }
      | _ => none
  | .waiter j, c =>
      if c.waiters j = .done then none
      else
        some { c with waiters := Function.update c.waiters j (waitRegion slot c j) }
  | .other op, c =>
      if op.frame then none
      else (Pipeline.step lim op c.pipe).map fun p => { c with pipe := p }

/-- The configurations a run from a reachable session with no thread in a call reaches. -/
inductive Reachable : Frames → Prop
  | init {p : State} (hp : Pipeline.Reachable lim p) (hi : ∀ d, p.sequenceWait d = .idle) :
      Reachable (init p)
  | step (l : Label) {c c' : Frames} (hc : Reachable c) (h : Frames.step lim slot l c = some c') :
      Reachable c'

/-- Whether the slot's sequence is open: the client's last frame call on it is a
`ValidateDisplay` that returned `None` or `HasChanges`, or one whose cancel region is still
to run. -/
def sequenceOpen (c : Frames) (d : Nat) : Bool :=
  match lastCall c.calls d with
  | some (.validate _ status) => !validateCancels status || decide (c.client = .validateCancel d)
  | _ => false

/-- What every reachable configuration keeps: a slot's sequence is entered exactly while it
is open, a waiter asleep and not woken waits on an entered sequence, and the client's
position matches its last frame call. -/
structure Invariant (c : Frames) : Prop where
  entered_iff : ∀ d, c.pipe.sequenceWait d = .entered ↔ c.sequenceOpen d = true
  asleep : ∀ j, c.waiters j = .blocked false → c.pipe.sequenceWait (slot j) = .entered
  validating : ∀ d, c.client = .validateCancel d →
    ∃ status, lastCall c.calls d = some (.validate d status) ∧ validateCancels status = true
  presenting : ∀ d status, c.client = .presentCancel d status ∨ c.client = .presentFinish d status →
    lastCall c.calls d = some (.present d status)

variable {lim slot} {c c' : Frames}

theorem init_invariant {p : State} (hi : ∀ d, p.sequenceWait d = .idle) :
    (init p).Invariant slot where
  entered_iff d := by simp [init, sequenceOpen, hi d]
  asleep j h := by simp [init] at h
  validating d h := by simp [init] at h
  presenting d status h := by simp [init] at h

theorem lastCall_validate_self (d : Nat) (status : Hwc2Error) (calls : List FrameCall) :
    lastCall (.validate d status :: calls) d = some (.validate d status) :=
  lastCall_cons_self (.validate d status) calls

theorem lastCall_present_self (d : Nat) (status : Hwc2Error) (calls : List FrameCall) :
    lastCall (.present d status :: calls) d = some (.present d status) :=
  lastCall_cons_self (.present d status) calls

/-- An entered or exited sequence at `d` leaves every sleeper of another slot asleep on an
entered sequence. -/
theorem asleep_update {seq : Nat → SequenceWait} {waiters : Nat → WaiterPc} {d j : Nat}
    {w : SequenceWait} (hasleep : ∀ j, waiters j = .blocked false → seq (slot j) = .entered)
    (hj : waiters j = .blocked false) (hd : slot j = d → w = .entered) :
    Function.update seq d w (slot j) = .entered := by
  by_cases h : slot j = d
  · rw [h, Function.update_same]
    exact hd h
  · rw [Function.update_noteq h]
    exact hasleep j hj

theorem broadcast_asleep {waiters : Nat → WaiterPc} {d j : Nat}
    (h : broadcast slot d waiters j = .blocked false) : slot j ≠ d ∧ waiters j = .blocked false := by
  unfold broadcast at h
  split_ifs at h with hd
  · cases hw : waiters j <;> simp [hw, WaiterPc.wake] at h
  · exact ⟨hd, h⟩

/-- A slot whose sequence, last call and cancel position a step leaves alone stays entered
exactly while it is open. -/
theorem Invariant.entered_iff_of_frame (hi : c.Invariant slot) {e : Nat}
    (hseq : c'.pipe.sequenceWait e = c.pipe.sequenceWait e)
    (hcalls : lastCall c'.calls e = lastCall c.calls e)
    (hc : c.client ≠ .validateCancel e) (hc' : c'.client ≠ .validateCancel e) :
    c'.pipe.sequenceWait e = .entered ↔ c'.sequenceOpen e = true := by
  rw [hseq, hi.entered_iff e]
  simp only [sequenceOpen, hcalls, hc, hc', decide_False, Bool.or_false]

theorem Invariant.validateDisplay (hi : c.Invariant slot) {d : Nat} {r : DisplayReplies}
    (h : step lim slot (.validateDisplay d r) c = some c') : c'.Invariant slot := by
  unfold step at h
  dsimp only at h
  have hready : c.client = .ready := by
    by_contra hr
    rw [if_pos hr] at h
    cases h
  rw [if_neg (not_not.2 hready)] at h
  by_cases hk : lim.kNumDisplays ≤ d
  · rw [if_pos hk] at h
    exact Option.some.inj h ▸ hi
  rw [if_neg hk] at h
  have hseq := validateEntry_sequenceWait d r c.pipe
  rcases he : validateEntry d r c.pipe with ⟨status, p⟩
  rw [he] at h hseq
  dsimp only at h hseq
  cases h
  constructor
  · intro e
    by_cases hed : e = d
    · subst hed
      rw [hseq, Function.update_same]
      simp only [sequenceOpen, lastCall_validate_self]
      cases validateCancels status <;> simp
    · exact hi.entered_iff_of_frame (by rw [hseq, Function.update_noteq hed])
        (lastCall_cons_of_ne (Ne.symm hed) _) (by simp [hready])
        (by split_ifs <;> simp [Ne.symm hed])
  · intro j hj
    rw [hseq]
    exact asleep_update hi.asleep hj fun _ => rfl
  · intro e he'
    dsimp only at he'
    split_ifs at he' with hv
    · cases he'
      exact ⟨status, lastCall_validate_self _ _ _, hv⟩
  · intro e st he'
    dsimp only at he'
    split_ifs at he' <;> simp at he'

/-- The exit region of a `PresentDisplay` keeps the invariant, whether the call returns
there, cancels or goes on to its end. -/
theorem Invariant.presentExit (hi : c.Invariant slot) (hready : c.client = .ready) {d : Nat}
    {status : Hwc2Error} {p : State} {client : ClientPc}
    (hseq : p.sequenceWait = Function.update c.pipe.sequenceWait d .idle)
    (hclient : client = .ready ∨ client = .presentCancel d status ∨ client = .presentFinish d status) :
    ({ c with pipe := p, calls := .present d status :: c.calls,
              waiters := broadcast slot d c.waiters, client := client } : Frames).Invariant slot := by
  have hnot : ∀ e, client ≠ .validateCancel e := by
    intro e
    rcases hclient with rfl | rfl | rfl <;> simp
  constructor
  · intro e
    by_cases hed : e = d
    · subst hed
      simp [sequenceOpen, hseq, lastCall_present_self]
    · exact hi.entered_iff_of_frame (by rw [hseq, Function.update_noteq hed])
        (lastCall_cons_of_ne (Ne.symm hed) _) (by simp [hready]) (hnot e)
  · intro j hj
    obtain ⟨hjd, hj⟩ := broadcast_asleep hj
    rw [hseq]
    exact asleep_update hi.asleep hj fun h => absurd h hjd
  · intro e he'
    exact absurd he' (hnot e)
  · intro e st he'
    rcases hclient with rfl | rfl | rfl <;> simp only [ClientPc.presentCancel.injEq,
      ClientPc.presentFinish.injEq, reduceCtorEq, false_and, or_false, false_or] at he' <;>
      obtain ⟨rfl, rfl⟩ := he' <;> exact lastCall_present_self _ _ _

theorem Invariant.presentDisplay (hi : c.Invariant slot) {dev : Bool} {d : Nat} {ret : Bool}
    {r : DisplayReplies} (h : step lim slot (.presentDisplay dev d ret r) c = some c') :
    c'.Invariant slot := by
  unfold step at h
  dsimp only at h
  have hready : c.client = .ready := by
    by_contra hr
    rw [if_pos hr] at h
    cases h
  rw [if_neg (not_not.2 hready)] at h
  by_cases hk : lim.kNumDisplays ≤ d
  · rw [if_pos hk] at h
    exact Option.some.inj h ▸ hi
  rw [if_neg hk] at h
  split at h
  · cases h
    exact hi.presentExit hready rfl (.inl hready)
  have hseq := presentExit_sequenceWait d r c.pipe
  rcases he : Pipeline.presentExit d r c.pipe with ⟨status, p⟩
  rw [he] at h hseq
  dsimp only at h hseq
  cases h
  exact hi.presentExit hready hseq (by split_ifs <;> simp)

/-- The cancel region closes the client's sequence and wakes that slot's sleepers. -/
theorem Invariant.cancel (hi : c.Invariant slot) (h : step lim slot .cancel c = some c') :
    c'.Invariant slot := by
  unfold step at h
  dsimp only at h
  have hother : ∀ {d e}, e ≠ d → (cancelSequence d c.pipe).sequenceWait e = c.pipe.sequenceWait e :=
    fun hed => by simp only [cancelSequence, State.setSequenceWait_sequenceWait,
      Function.update_noteq hed]
  have hasleep : ∀ {d j}, broadcast slot d c.waiters j = .blocked false →
      (cancelSequence d c.pipe).sequenceWait (slot j) = .entered := fun hj => by
    obtain ⟨hjd, hj⟩ := broadcast_asleep hj
    exact asleep_update hi.asleep hj fun h => absurd h hjd
  cases hc : c.client with
  | ready => simp [hc] at h
  | presentFinish d status => simp [hc] at h
  | validateCancel d =>
      simp only [hc, Option.some.injEq] at h
      subst h
      obtain ⟨st, hlast, hv⟩ := hi.validating d hc
      refine ⟨fun e => ?_, fun j => hasleep, (fun e he => nomatch he), fun e st he => by simp at he⟩
      by_cases hed : e = d
      · subst hed
        simp [cancelSequence, sequenceOpen, hlast, hv]
      · exact hi.entered_iff_of_frame (hother hed) rfl (by simp [hc, Ne.symm hed]) (by simp)
  | presentCancel d status =>
      simp only [hc, Option.some.injEq] at h
      subst h
      have hlast := hi.presenting d status (.inl hc)
      refine ⟨fun e => ?_, fun j => hasleep, (fun e he => nomatch he), fun e st he => ?_⟩
      · by_cases hed : e = d
        · subst hed
          simp [cancelSequence, sequenceOpen, hlast]
        · exact hi.entered_iff_of_frame (hother hed) rfl (by simp [hc]) (by simp)
      · simp only [reduceCtorEq, ClientPc.presentFinish.injEq, false_or] at he
        obtain ⟨rfl, rfl⟩ := he
        exact hlast

theorem Invariant.finish (hi : c.Invariant slot) {now : Nat} {f : Factory}
    {i : Option (List HwDisplayInfo)} (h : step lim slot (.finish now f i) c = some c') :
    c'.Invariant slot := by
  unfold step at h
  dsimp only at h
  cases hc : c.client with
  | presentFinish d status =>
      simp only [hc] at h
      obtain ⟨⟨st, p⟩, hp, rfl⟩ := Option.map_eq_some'.1 h
      have hseq := presentFinish_sequenceWait hp
      refine ⟨fun e => hi.entered_iff_of_frame (by rw [hseq]) rfl (by simp [hc]) (by simp),
        fun j hj => ?_, (fun e he => nomatch he), fun e st he => by simp at he⟩
      rw [hseq]
      exact hi.asleep j hj
  | ready => simp [hc] at h
  | validateCancel d => simp [hc] at h
  | presentCancel d status => simp [hc] at h

theorem Invariant.waiter (hi : c.Invariant slot) {j : Nat} (h : step lim slot (.waiter j) c = some c') :
    c'.Invariant slot := by
  unfold step at h
  dsimp only at h
  split_ifs at h
  cases h
  refine ⟨hi.entered_iff, fun k hk => ?_, hi.validating, hi.presenting⟩
  by_cases hkj : k = j
  · subst hkj
    simp only [Function.update_same, waitRegion] at hk
    split_ifs at hk with hs
    · exact hs
  · exact hi.asleep k (by simpa only [Function.update_noteq hkj] using hk)

theorem Invariant.other (hi : c.Invariant slot) {op : Op} (h : step lim slot (.other op) c = some c') :
    c'.Invariant slot := by
  unfold step at h
  dsimp only at h
  split_ifs at h with hf
  obtain ⟨p, hp, rfl⟩ := Option.map_eq_some'.1 h
  have hseq := step_sequenceWait hp (by simpa using hf)
  exact ⟨fun e => by rw [hseq]; exact hi.entered_iff e, fun j hj => by rw [hseq]; exact hi.asleep j hj,
    hi.validating, hi.presenting⟩

theorem Invariant.step (hi : c.Invariant slot) {l : Label} (h : step lim slot l c = some c') :
    c'.Invariant slot := by
  cases l with
  | validateDisplay d r => exact hi.validateDisplay h
  | presentDisplay dev d ret r => exact hi.presentDisplay h
  | cancel => exact hi.cancel h
  | finish now f i => exact hi.finish h
  | waiter j => exact hi.waiter h
  | other op => exact hi.other h

theorem Reachable.invariant (h : Reachable lim slot c) : c.Invariant slot := by
  induction h with
  | init _ hi => exact init_invariant hi
  | step l _ h ih => exact ih.step h

theorem lastCall_display {calls : List FrameCall} {d : Nat} {k : FrameCall}
    (h : lastCall calls d = some k) : k.display = d := by
  simpa using List.find?_some h

theorem sequenceOpen_iff {d : Nat} :
    c.sequenceOpen d = true ↔ ∃ status, lastCall c.calls d = some (.validate d status) ∧
      (validateCancels status = false ∨ c.client = .validateCancel d) := by
  unfold sequenceOpen
  cases h : lastCall c.calls d with
  | none => simp
  | some k =>
      cases k with
      | validate d' status =>
          obtain rfl : d' = d := lastCall_display h
          simp
      | present d' status => simp

/-! ## What the commands see -/

/-- A QService command's section never runs on a slot whose last frame call is a
`ValidateDisplay` that returned `None` or `HasChanges`, nor while a failed one has still to
cancel: between a validation and its present, the commands leave the display alone. -/
theorem waiter_runs_outside_sequence (hc : Reachable lim slot c) {j : Nat}
    (h : step lim slot (.waiter j) c = some c') (hd : c'.waiters j = .done) :
    ¬∃ status, lastCall c.calls (slot j) = some (.validate (slot j) status) ∧
      (validateCancels status = false ∨ c.client = .validateCancel (slot j)) := by
  rw [← sequenceOpen_iff, ← hc.invariant.entered_iff]
  unfold step at h
  dsimp only at h
  split_ifs at h
  cases h
  simpa [waitRegion] using hd

/-- A QService command asleep in its wait and not reached by a `Broadcast()` waits on an
open sequence: its slot's last frame call is a `ValidateDisplay` that returned `None` or
`HasChanges`, or a failed one about to cancel, which broadcasts. So no wake-up is lost:
once the slot's frame is presented, or its failed validation cancelled, every command
asleep on it has been woken. -/
theorem blocked_waiter_sequence_open (hc : Reachable lim slot c) {j : Nat}
    (hb : c.waiters j = .blocked false) :
    ∃ status, lastCall c.calls (slot j) = some (.validate (slot j) status) ∧
      (validateCancels status = false ∨ c.client = .validateCancel (slot j)) :=
  sequenceOpen_iff.1 ((hc.invariant.entered_iff _).1 (hc.invariant.asleep j hb))

variable (lim slot)

/-- The steps of `ls`, in order, from `c`. -/
def run : List Label → Frames → Option Frames
  | [], c => some c
  | l :: ls, c => (step lim slot l c).bind (run ls)

variable {lim slot}

theorem Reachable.run : ∀ {c c' : Frames} {ls : List Label}, Reachable lim slot c →
    run lim slot ls c = some c' → Reachable lim slot c'
  | _, _, [], hc, h => Option.some.inj h ▸ hc
  | _, _, l :: _, hc, h => by
      obtain ⟨c'', hc'', h'⟩ := Option.bind_eq_some.1 h
      exact (Reachable.step l hc hc'').run h'

/-! ## A run on the primary -/

/-- Every QService thread waits on the primary. -/
def onPrimary : Nat → Nat := fun _ => hwcDisplayPrimary

/-- The session after `Init`, with no thread in a call. -/
def bootFrames : Frames :=
  init ((Pipeline.init lim4 bootReport factory60 (some bootDisplays)).get (by decide))

theorem reachable_bootFrames : Reachable lim4 onPrimary bootFrames :=
  have h := (Option.some_get (by decide : (Pipeline.init lim4 bootReport factory60
    (some bootDisplays)).isSome)).symm
  .init (.init _ _ _ _ h) (init_sequenceWait h)

/-- The primary validated with changes, a command blocked on it, and the primary presented,
which wakes the command. -/
def presentedFrames : Frames :=
  (run lim4 onPrimary [.validateDisplay hwcDisplayPrimary .changes, .waiter 0,
    .presentDisplay true hwcDisplayPrimary true .plain] bootFrames).get (by decide)

/-- The woken command's section runs. -/
def commandDone : Frames := (step lim4 onPrimary (.waiter 0) presentedFrames).get (by decide)

theorem waiter_runs_outside_sequence_after_present :
    Reachable lim4 onPrimary presentedFrames ∧
      step lim4 onPrimary (.waiter 0) presentedFrames = some commandDone ∧
      commandDone.waiters 0 = .done ∧
      ¬∃ status, lastCall presentedFrames.calls (onPrimary 0) =
          some (.validate (onPrimary 0) status) ∧
        (validateCancels status = false ∨ presentedFrames.client = .validateCancel (onPrimary 0)) :=
  have hr : Reachable lim4 onPrimary presentedFrames :=
    reachable_bootFrames.run (Option.some_get _).symm
  have hs : step lim4 onPrimary (.waiter 0) presentedFrames = some commandDone :=
    (Option.some_get _).symm
  have hd : commandDone.waiters 0 = .done := by decide
  ⟨hr, hs, hd, waiter_runs_outside_sequence hr hs hd⟩

/-- The primary validated with changes and a command asleep on it. -/
def validatedFrames : Frames :=
  (run lim4 onPrimary [.validateDisplay hwcDisplayPrimary .changes, .waiter 0] bootFrames).get
    (by decide)

theorem blocked_waiter_sequence_open_after_validate :
    Reachable lim4 onPrimary validatedFrames ∧ validatedFrames.waiters 0 = .blocked false ∧
      ∃ status, lastCall validatedFrames.calls (onPrimary 0) =
          some (.validate (onPrimary 0) status) ∧
        (validateCancels status = false ∨ validatedFrames.client = .validateCancel (onPrimary 0)) :=
  have hr : Reachable lim4 onPrimary validatedFrames :=
    reachable_bootFrames.run (Option.some_get _).symm
  have hb : validatedFrames.waiters 0 = .blocked false := by decide
  ⟨hr, hb, blocked_waiter_sequence_open hr hb⟩

end Frames

end HwcSession.Pipeline
