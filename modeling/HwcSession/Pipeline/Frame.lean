import HwcSession.Session.SlotTable
import HwcSession.UEvent.Handler

/-!
# The frame calls and the refresh requests

`ValidateDisplay` and `PresentDisplay` are the two halves of a frame. Around the display
object's own `Validate` and `Present`, the session keeps four members that the slot table
of `Session.State` leaves out:

* `pending_refresh_`, one bit per slot. `SetPowerMode` sets a display's bit when it puts
  the display in `Doze`, and clears it for any other mode; at the end of every
  `PresentDisplay`, `HandlePendingRefresh` refreshes the lowest pending display and clears
  every bit;
* `reset_panel_`, raised with a `Refresh(0)` by a `PANEL_ALIVE=0` uevent of fb0, and
  lowered by `ResetPanel`, which the primary's validation runs while it is raised;
* `need_invalidate_`, which `RegisterCallback` and the primary's validation clear;
* `sequence_wait_` of each slot's `Locker`: `ValidateDisplay` enters a sequence,
  `PresentDisplay` exits it, and either one cancels it when its status is an error.

`Refresh(display)` asks the client for a new frame; `refreshes` records the calls the
code of this module makes, newest first. The `Refresh(0)`s of a hotplug scan belong to the
slot table's operations, which record them in `Session.State.refreshes`.

The display object is not part of these sources: what it answers during one frame call is
a `DisplayReplies`, and each answer is the display's choice. `Locker` (`utils/locker.h`)
is not part of them either, and its sequence state follows the spec.

`step` runs one HWC2 call or one round of the uevent thread on the whole session. The
slot table of every state a run reaches is one the session model reaches
(`Reachable.session`), so every invariant proved of `Session.Reachable` holds here too.

## Main results

* `presentDisplay_refreshes`: in every reachable state, a `PresentDisplay` either returns
  early on a null pointer and leaves the pending bits and the refreshes alone, or clears
  every pending bit, refreshes the lowest pending display, and asks for no other refresh
  but the `Refresh(0)`s of the primary's first hotplug scan.
* `needInvalidate_of_reachable`: no operation raises `need_invalidate_`, so the invalidate
  branch of `ValidateDisplayInternal` never runs.
-/

namespace HwcSession.Pipeline

open HwcSession.Basic HwcSession.Session HwcSession.UEvent

/-- Modelled from the spec: `utils/locker.h` is not part of these sources.
`sequence_wait_` of a slot's `Locker`: `0`, `1` once a sequence is entered, `-1` once it is
cancelled. -/
inductive SequenceWait where
  | idle | entered | cancelled
  deriving DecidableEq, Repr

/-- Modelled from the spec: the display classes are not part of these sources.
What the display object at a slot answers during one frame call:
`IsInternalValidateState()`, `GetValidateDisplayOutput(...)`, `Validate(...)`,
`IsSkipValidateState()`, `CanSkipValidate()`, `HasClientComposition()` and `Present(...)`. -/
structure DisplayReplies where
  isInternalValidateState : Bool
  getValidateDisplayOutput : Hwc2Error
  validate : Hwc2Error
  isSkipValidateState : Bool
  canSkipValidate : Bool
  hasClientComposition : Bool
  present : Hwc2Error
  deriving DecidableEq, Repr

/-- The session: the slot table, and the members of the frame calls, with the `Refresh`
calls made so far, newest first. -/
structure State where
  session : Session.State
  pendingRefresh : Nat → Bool
  needInvalidate : Bool
  resetPanel : Bool
  sequenceWait : Nat → SequenceWait
  refreshes : List Nat

namespace State

variable (p : State) (c : Nat)

/-- Modelled from the spec: `Refresh` retries under `callbacks_lock_` until the client's
refresh callback takes it. `Refresh(display)`. -/
def refresh (display : Nat) : State := { p with refreshes := display :: p.refreshes }

/-- `locker_[display].sequence_wait_ = w`. -/
def setSequenceWait (display : Nat) (w : SequenceWait) : State :=
  { p with sequenceWait := Function.update p.sequenceWait display w }

/-- `pending_refresh_.set(display)` (`b`) or `pending_refresh_.reset(display)`. -/
def setPending (display : Nat) (b : Bool) : State :=
  { p with pendingRefresh := Function.update p.pendingRefresh display b }

@[simp] theorem refresh_session : (p.refresh c).session = p.session := rfl
@[simp] theorem refresh_pendingRefresh : (p.refresh c).pendingRefresh = p.pendingRefresh := rfl
@[simp] theorem refresh_needInvalidate : (p.refresh c).needInvalidate = p.needInvalidate := rfl
@[simp] theorem refresh_resetPanel : (p.refresh c).resetPanel = p.resetPanel := rfl
@[simp] theorem refresh_sequenceWait : (p.refresh c).sequenceWait = p.sequenceWait := rfl
@[simp] theorem refresh_refreshes : (p.refresh c).refreshes = c :: p.refreshes := rfl

variable (w : SequenceWait) (b : Bool)

@[simp] theorem setSequenceWait_session : (p.setSequenceWait c w).session = p.session := rfl
@[simp] theorem setSequenceWait_pendingRefresh :
    (p.setSequenceWait c w).pendingRefresh = p.pendingRefresh := rfl
@[simp] theorem setSequenceWait_needInvalidate :
    (p.setSequenceWait c w).needInvalidate = p.needInvalidate := rfl
@[simp] theorem setSequenceWait_resetPanel : (p.setSequenceWait c w).resetPanel = p.resetPanel := rfl
@[simp] theorem setSequenceWait_refreshes : (p.setSequenceWait c w).refreshes = p.refreshes := rfl
@[simp] theorem setSequenceWait_sequenceWait :
    (p.setSequenceWait c w).sequenceWait = Function.update p.sequenceWait c w := rfl

@[simp] theorem setPending_session : (p.setPending c b).session = p.session := rfl
@[simp] theorem setPending_needInvalidate : (p.setPending c b).needInvalidate = p.needInvalidate :=
  rfl
@[simp] theorem setPending_resetPanel : (p.setPending c b).resetPanel = p.resetPanel := rfl
@[simp] theorem setPending_sequenceWait : (p.setPending c b).sequenceWait = p.sequenceWait := rfl
@[simp] theorem setPending_refreshes : (p.setPending c b).refreshes = p.refreshes := rfl
@[simp] theorem setPending_pendingRefresh :
    (p.setPending c b).pendingRefresh = Function.update p.pendingRefresh c b := rfl

end State

variable (lim : Limits)

/-! ## `ValidateDisplay` -/

/-- `ResetPanel()`: the primary is powered off, set back to its last power mode and has its
vsync enabled, each by the display itself; the session lowers `reset_panel_`. -/
def resetPanel (p : State) : State := { p with resetPanel := false }

/-- `ValidateDisplayInternal(display)` on an occupied slot. A display whose last present
validated it internally answers from that validation; otherwise the primary first serves
a panel reset and an invalidate request. (`SetColorModeDetailEnhancer` belongs to the
color manager and is left out.) -/
def validateDisplayInternal (display : Nat) (r : DisplayReplies) (p : State) :
    Hwc2Error × State :=
  if r.isInternalValidateState then (r.getValidateDisplayOutput, p)
  else if display = hwcDisplayPrimary then
    let p := if p.resetPanel then resetPanel p else p
    let p := if p.needInvalidate then { p.refresh display with needInvalidate := false } else p
    (r.validate, p)
  else (r.validate, p)

/-- The region of `ValidateDisplay` under `SEQUENCE_ENTRY_SCOPE_LOCK(locker_[display])`. -/
def validateEntry (display : Nat) (r : DisplayReplies) (p : State) : Hwc2Error × State :=
  let p := p.setSequenceWait display .entered
  if p.session.occupied display then validateDisplayInternal display r p else (.badDisplay, p)

/-- `SEQUENCE_CANCEL_SCOPE_LOCK(locker_[display])`. -/
def cancelSequence (display : Nat) (p : State) : State := p.setSequenceWait display .cancelled

/-- The statuses on which `ValidateDisplay` cancels its sequence. -/
def validateCancels (status : Hwc2Error) : Bool := status ≠ .none ∧ status ≠ .hasChanges

/-- `ValidateDisplay(device, display, out_num_types, out_num_requests)`. -/
def validateDisplay (display : Nat) (r : DisplayReplies) (p : State) : Hwc2Error × State :=
  if lim.kNumDisplays ≤ display then (.badDisplay, p)
  else
    let (status, p) := validateEntry display r p
    (status, if validateCancels status then cancelSequence display p else p)

/-! ## `PresentDisplay` -/

/-- `PresentDisplayInternal(display)` on an occupied slot. A display in the skip-validate
state that cannot skip validation is validated first, and is not presented when that
validation fails or needs client composition; the display then keeps that validation
(`SetValidationState(kInternalValidate)`). -/
def presentDisplayInternal (display : Nat) (r : DisplayReplies) (p : State) :
    Hwc2Error × State :=
  if r.isSkipValidateState ∧ ¬r.canSkipValidate then
    let (error, p) := validateDisplayInternal display r p
    if error ≠ .none ∨ r.hasClientComposition then (.notValidated, p) else (r.present, p)
  else (r.present, p)

/-- The region of `PresentDisplay` under `SEQUENCE_EXIT_SCOPE_LOCK(locker_[display])`. Its
`signalIdle()` is made by `Session.presentDisplay`; the `NeedsRefresh` handshake goes to
the callbacks and the display and is left out. -/
def presentExit (display : Nat) (r : DisplayReplies) (p : State) : Hwc2Error × State :=
  let p := p.setSequenceWait display .idle
  if p.session.occupied display then presentDisplayInternal display r p else (.badDisplay, p)

/-- The statuses on which `PresentDisplay` cancels the sequence it has exited. -/
def presentCancels (status : Hwc2Error) : Bool := status ≠ .none ∧ status ≠ .notValidated

/-- `HandlePendingRefresh()`: nothing when no bit is set; otherwise the lowest pending
display is refreshed and every bit cleared. -/
def handlePendingRefresh (p : State) : State :=
  match (List.range lim.kNumDisplays).find? p.pendingRefresh with
  | none => p
  | some i => { p.refresh i with pendingRefresh := fun _ => false }

/-- The end of `PresentDisplay`, after its sequence regions: the slot table's part
(`Session.presentDisplay`: the idle signal and the primary's first present), then
`HandlePendingRefresh()`. -/
def presentFinish (f : Factory) (hwDisplaysInfo : Option (List HwDisplayInfo))
    (display now : Nat) (status : Hwc2Error) (p : State) : Option (Hwc2Error × State) :=
  (Session.presentDisplay lim f hwDisplaysInfo display now status p.session).map fun r =>
    (r.1, handlePendingRefresh lim { p with session := r.2 })

/-- The early returns of `PresentDisplay` inside its exit region, before the display is looked
at: `BAD_DISPLAY` for a null device and `BAD_PARAMETER` for a null `out_retire_fence`. -/
def presentPointers (device retireFence : Bool) : Option Hwc2Error :=
  if !device then some .badDisplay
  else if !retireFence then some .badParameter
  else none

theorem presentPointers_eq_none {device retireFence : Bool} :
    presentPointers device retireFence = none ↔ device = true ∧ retireFence = true := by
  cases device <;> cases retireFence <;> simp [presentPointers]

/-- The two regions of `PresentDisplay` under `locker_[display]`: the exit region, and the
cancel region when the status asks for it. -/
def presentRegions (display : Nat) (r : DisplayReplies) (p : State) : Hwc2Error × State :=
  let (status, p) := presentExit display r p
  (status, if presentCancels status then cancelSequence display p else p)

/-- `PresentDisplay(device, display, out_retire_fence)` at monotonic time `now`: `device` and
`retireFence` are whether the two pointers are non-null. A call that returns early has
exited its sequence and does nothing more; `none` is the `abort()` of the primary's first
hotplug scan. -/
def presentDisplay (f : Factory) (hwDisplaysInfo : Option (List HwDisplayInfo)) (device : Bool)
    (display : Nat) (retireFence : Bool) (now : Nat) (r : DisplayReplies) (p : State) :
    Option (Hwc2Error × State) :=
  if lim.kNumDisplays ≤ display then some (.badDisplay, p)
  else
    match presentPointers device retireFence with
    | some error => some (error, p.setSequenceWait display .idle)
    | none =>
        let (status, p) := presentRegions display r p
        presentFinish lim f hwDisplaysInfo display now status p

/-! ## The other entry points -/

/-- `SetPowerMode(device, display, int_mode)`. The slot table's part is `Session.setPowerMode`;
a call that succeeds then, for `Doze`, asks for a refresh and marks one more pending, and for
any other mode clears the display's bit. -/
def setPowerMode (display : Nat) (intMode : Int) (displayStatus : Hwc2Error) (p : State) :
    Hwc2Error × State :=
  let (status, s) := Session.setPowerMode lim display intMode displayStatus p.session
  let p := { p with session := s }
  if status ≠ .none then (status, p)
  else if PowerMode.ofInt? intMode = some .doze then (status, (p.refresh display).setPending display true)
  else (status, p.setPending display false)

/-- `CreateVirtualDisplay(...)`. The slot table's part is `Session.createVirtualDisplay`. A
call that creates its display waits, with `SEQUENCE_WAIT_SCOPE_LOCK(locker_[HWC_DISPLAY_PRIMARY])`,
while the primary's sequence is entered; in a run of one caller only that caller's own
`PresentDisplay` could end the wait, so the call does not return (`none`). (The primary's
`ResetValidation()` is the display's.) -/
def createVirtualDisplay (f : Factory) (hwDisplaysInfo : Option (List HwDisplayInfo))
    (width height outDisplayId : Nat) (p : State) : Option State :=
  let (status, _, s) := Session.createVirtualDisplay lim f hwDisplaysInfo width height outDisplayId
    p.session
  if status = .none ∧ p.sequenceWait hwcDisplayPrimary = .entered then none
  else some { p with session := s }

/-- One round of `HWCUEvent::UEventThread` with the kernel's message `msg`: what
`UEventHandler` does with it. `none` when the handler reads outside its buffer (it never
does: `ueventThreadRound_handler_in_bounds`) or the hotplug scan aborts. The
`onHdmiHotplug` call to QService is left out. -/
def uevent (f : Factory) (hwDisplaysInfo : Option (List HwDisplayInfo)) (msg : List UInt8)
    (p : State) : Option State :=
  let r := ueventThreadRound msg
  match uEventHandler r.ueventData r.length with
  | .error _ => none
  | .ok .ignore => some p
  | .ok .resetPanel => some { p.refresh 0 with resetPanel := true }
  | .ok (.hotplug bpp pattern _) =>
      (hotplugEvent lim f hwDisplaysInfo bpp pattern p.session).map fun s => { p with session := s }

/-! ## Runs -/

/-- One operation with its arguments and the environment's replies. -/
inductive Op where
  | registerCallback (descriptor : Callback) (pointer : Bool) (f : Factory)
      (hwDisplaysInfo : Option (List HwDisplayInfo))
  | validateDisplay (display : Nat) (r : DisplayReplies)
  | presentDisplay (device : Bool) (display : Nat) (retireFence : Bool) (now : Nat)
      (r : DisplayReplies) (f : Factory) (hwDisplaysInfo : Option (List HwDisplayInfo))
  | setPowerMode (display : Nat) (intMode : Int) (displayStatus : Hwc2Error)
  | setActiveConfig (display config : Nat)
  | createVirtualDisplay (width height outDisplayId : Nat) (f : Factory)
      (hwDisplaysInfo : Option (List HwDisplayInfo))
  | destroyVirtualDisplay (display : Nat)
  | uevent (msg : List UInt8) (f : Factory) (hwDisplaysInfo : Option (List HwDisplayInfo))

/-- `ValidateDisplay` and `PresentDisplay`, the calls that move a slot's sequence. -/
def Op.frame : Op → Bool
  | .validateDisplay _ _ | .presentDisplay _ _ _ _ _ _ _ => true
  | _ => false

/-- The state after one operation; `none` when it aborts the process or does not return.
`RegisterCallback` also clears `need_invalidate_`. -/
def step : Op → State → Option State
  | .registerCallback d ptr f i, p =>
      some { p with session := registerCallback lim f i d ptr p.session, needInvalidate := false }
  | .validateDisplay d r, p => some (validateDisplay lim d r p).2
  | .presentDisplay dev d ret now r f i, p => (presentDisplay lim f i dev d ret now r p).map Prod.snd
  | .setPowerMode d m st, p => some (setPowerMode lim d m st p).2
  | .setActiveConfig d c, p => some { p with session := (setActiveConfig lim d c p.session).2 }
  | .createVirtualDisplay w h o f i, p => createVirtualDisplay lim f i w h o p
  | .destroyVirtualDisplay d, p => some { p with session := (destroyVirtualDisplay lim d p.session).2 }
  | .uevent msg f i, p => uevent lim f i msg p

/-- The session after a successful `Init`: nothing pending, no sequence entered. -/
def init (r : HwReport) (f : Factory) (hwDisplaysInfo : Option (List HwDisplayInfo)) :
    Option State :=
  (Session.init lim r f hwDisplaysInfo).map fun s =>
    ⟨s, fun _ => false, false, false, fun _ => .idle, []⟩

/-- The states a run from a successful `Init` reaches. -/
inductive Reachable : State → Prop
  | init (r : HwReport) (f : Factory) (hwDisplaysInfo : Option (List HwDisplayInfo)) (p : State)
      (h : init lim r f hwDisplaysInfo = some p) : Reachable p
  | step (op : Op) {p q : State} (hp : Reachable p) (h : step lim op p = some q) : Reachable q

/-- The operations of `ops`, in order, from `p`. -/
def run : List Op → State → Option State
  | [], p => some p
  | op :: ops, p => (step lim op p).bind (run ops)

/-! ## The slot table goes through a run of the session model -/

/-- The session model's operation that `op` runs on the slot table of `p`; `none` for a
call that leaves the slot table alone, as a `PresentDisplay` that returns early does. -/
def Op.session (p : State) : Op → Option Session.Op
  | .registerCallback d ptr f i => some (.registerCallback d ptr f i)
  | .validateDisplay _ _ => none
  | .presentDisplay dev d ret now r f i =>
      match presentPointers dev ret with
      | some _ => none
      | none => some (.presentDisplay d now (presentRegions d r p).1 f i)
  | .setPowerMode d m st => some (.setPowerMode d m st)
  | .setActiveConfig d c => some (.setActiveConfig d c)
  | .createVirtualDisplay w h o f i => some (.createVirtualDisplay w h o f i)
  | .destroyVirtualDisplay d => some (.destroyVirtualDisplay d)
  | .uevent msg f i =>
      let r := ueventThreadRound msg
      match uEventHandler r.ueventData r.length with
      | .ok (.hotplug bpp pattern _) => some (.hotplugEvent bpp pattern f i)
      | _ => none

variable {lim}

section Frame

variable {p q : State} {display : Nat} {r : DisplayReplies}

theorem resetPanel_of_false (h : p.resetPanel = false) : resetPanel p = p := by
  cases p
  simp_all [resetPanel]

/-- `ValidateDisplayInternal` changes nothing but `reset_panel_`, `need_invalidate_` and the
refreshes. -/
theorem validateDisplayInternal_frame (display : Nat) (r : DisplayReplies) (p : State) :
    ∃ b c rs, (validateDisplayInternal display r p).2 =
      { p with resetPanel := b, needInvalidate := c, refreshes := rs } := by
  unfold validateDisplayInternal resetPanel State.refresh
  dsimp only
  split_ifs <;> exact ⟨_, _, _, rfl⟩

/-- With `need_invalidate_` down, `ValidateDisplayInternal` changes nothing but
`reset_panel_`, which the primary's validation lowers unless it answers from an internal
validation. -/
theorem validateDisplayInternal_of_needInvalidate (h : p.needInvalidate = false) :
    (validateDisplayInternal display r p).2 =
      if ¬r.isInternalValidateState ∧ display = hwcDisplayPrimary then resetPanel p else p := by
  unfold validateDisplayInternal
  by_cases hi : r.isInternalValidateState
  · simp [hi]
  by_cases hd : display = hwcDisplayPrimary
  · by_cases hr : p.resetPanel
    · simp [hi, hd, hr, h, resetPanel]
    · simp [hi, hd, hr, h, resetPanel_of_false]
  · simp [hi, hd]

theorem validateDisplayInternal_session :
    (validateDisplayInternal display r p).2.session = p.session := by
  obtain ⟨b, c, rs, h⟩ := validateDisplayInternal_frame display r p
  rw [h]

theorem validateDisplayInternal_sequenceWait :
    (validateDisplayInternal display r p).2.sequenceWait = p.sequenceWait := by
  obtain ⟨b, c, rs, h⟩ := validateDisplayInternal_frame display r p
  rw [h]

theorem validateDisplayInternal_pendingRefresh :
    (validateDisplayInternal display r p).2.pendingRefresh = p.pendingRefresh := by
  obtain ⟨b, c, rs, h⟩ := validateDisplayInternal_frame display r p
  rw [h]

theorem validateDisplayInternal_needInvalidate (h : p.needInvalidate = false) :
    (validateDisplayInternal display r p).2.needInvalidate = false := by
  rw [validateDisplayInternal_of_needInvalidate h]
  split_ifs <;> exact h

/-- `PresentDisplayInternal` changes what `ValidateDisplayInternal` does, through the
validation it makes first. -/
theorem presentDisplayInternal_eq (display : Nat) (r : DisplayReplies) (p : State) :
    (presentDisplayInternal display r p).2 =
      if r.isSkipValidateState ∧ ¬r.canSkipValidate then (validateDisplayInternal display r p).2
      else p := by
  unfold presentDisplayInternal
  dsimp only
  split_ifs <;> rfl

theorem validateEntry_eq (display : Nat) (r : DisplayReplies) (p : State) :
    (validateEntry display r p).2 =
      if p.session.occupied display then
        (validateDisplayInternal display r (p.setSequenceWait display .entered)).2
      else p.setSequenceWait display .entered := by
  simp only [validateEntry, State.setSequenceWait_session]
  split_ifs <;> rfl

theorem presentExit_eq (display : Nat) (r : DisplayReplies) (p : State) :
    (presentExit display r p).2 =
      if p.session.occupied display then
        (presentDisplayInternal display r (p.setSequenceWait display .idle)).2
      else p.setSequenceWait display .idle := by
  simp only [presentExit, State.setSequenceWait_session]
  split_ifs <;> rfl

theorem presentExit_session : (presentExit display r p).2.session = p.session := by
  rw [presentExit_eq, presentDisplayInternal_eq]
  split_ifs <;> simp only [validateDisplayInternal_session, State.setSequenceWait_session]

theorem validateDisplay_session : (validateDisplay lim display r p).2.session = p.session := by
  unfold validateDisplay cancelSequence
  split_ifs
  · rfl
  · dsimp only
    split_ifs <;> simp only [State.setSequenceWait_session, validateEntry_eq] <;>
      split_ifs <;> simp only [validateDisplayInternal_session, State.setSequenceWait_session]

theorem presentExit_pendingRefresh :
    (presentExit display r p).2.pendingRefresh = p.pendingRefresh := by
  rw [presentExit_eq, presentDisplayInternal_eq]
  split_ifs <;> simp only [validateDisplayInternal_pendingRefresh,
    State.setSequenceWait_pendingRefresh]

theorem presentExit_of_needInvalidate (h : p.needInvalidate = false) :
    (presentExit display r p).2.needInvalidate = false ∧
      (presentExit display r p).2.refreshes = p.refreshes := by
  have h' : (p.setSequenceWait display .idle).needInvalidate = false := h
  rw [presentExit_eq, presentDisplayInternal_eq, validateDisplayInternal_of_needInvalidate h']
  split_ifs <;> exact ⟨h, rfl⟩

theorem presentRegions_eq (display : Nat) (r : DisplayReplies) (p : State) :
    (presentRegions display r p).2 =
      if presentCancels (presentExit display r p).1 then
        cancelSequence display (presentExit display r p).2
      else (presentExit display r p).2 := rfl

theorem presentRegions_session (display : Nat) (r : DisplayReplies) (p : State) :
    (presentRegions display r p).2.session = p.session := by
  rw [presentRegions_eq]
  split_ifs <;> exact presentExit_session

theorem presentRegions_pendingRefresh (display : Nat) (r : DisplayReplies) (p : State) :
    (presentRegions display r p).2.pendingRefresh = p.pendingRefresh := by
  rw [presentRegions_eq]
  split_ifs <;> exact presentExit_pendingRefresh

theorem presentRegions_of_needInvalidate (display : Nat) (r : DisplayReplies)
    (h : p.needInvalidate = false) :
    (presentRegions display r p).2.needInvalidate = false ∧
      (presentRegions display r p).2.refreshes = p.refreshes := by
  rw [presentRegions_eq]
  split_ifs <;> exact presentExit_of_needInvalidate h

theorem validateDisplay_needInvalidate (display : Nat) (r : DisplayReplies)
    (h : p.needInvalidate = false) : (validateDisplay lim display r p).2.needInvalidate = false := by
  have h' : (p.setSequenceWait display .entered).needInvalidate = false := h
  have he : (validateEntry display r p).2.needInvalidate = false := by
    rw [validateEntry_eq]
    split_ifs
    · exact validateDisplayInternal_needInvalidate h'
    · exact h
  unfold validateDisplay cancelSequence
  split_ifs
  · exact h
  · dsimp only
    split_ifs <;> exact he

theorem setPowerMode_session (display : Nat) (intMode : Int) (st : Hwc2Error) (p : State) :
    (setPowerMode lim display intMode st p).2.session =
      (Session.setPowerMode lim display intMode st p.session).2 := by
  unfold setPowerMode
  dsimp only
  split_ifs <;> rfl

theorem setPowerMode_sequenceWait (display : Nat) (intMode : Int) (st : Hwc2Error) (p : State) :
    (setPowerMode lim display intMode st p).2.sequenceWait = p.sequenceWait := by
  unfold setPowerMode
  dsimp only
  split_ifs <;> rfl

theorem validateEntry_sequenceWait (display : Nat) (r : DisplayReplies) (p : State) :
    (validateEntry display r p).2.sequenceWait = Function.update p.sequenceWait display .entered := by
  rw [validateEntry_eq]
  split_ifs <;> simp only [validateDisplayInternal_sequenceWait, State.setSequenceWait_sequenceWait]

theorem presentExit_sequenceWait (display : Nat) (r : DisplayReplies) (p : State) :
    (presentExit display r p).2.sequenceWait = Function.update p.sequenceWait display .idle := by
  rw [presentExit_eq, presentDisplayInternal_eq]
  split_ifs <;> simp only [validateDisplayInternal_sequenceWait, State.setSequenceWait_sequenceWait]

theorem setPowerMode_needInvalidate (display : Nat) (intMode : Int) (st : Hwc2Error) (p : State) :
    (setPowerMode lim display intMode st p).2.needInvalidate = p.needInvalidate := by
  unfold setPowerMode
  dsimp only
  split_ifs <;> rfl

end Frame

/-! ## `HandlePendingRefresh` -/

/-- What `HandlePendingRefresh` may add to the refreshes `before`: nothing when no bit of
the table is set, and otherwise the lowest pending display, and only that one. -/
def Served (lim : Limits) (pending : Nat → Bool) (before after : List Nat) : Prop :=
  (∀ d < lim.kNumDisplays, pending d = false) ∧ after = before ∨
    ∃ d < lim.kNumDisplays, pending d = true ∧ (∀ e < d, pending e = false) ∧ after = d :: before

section Pending

variable (p : State)

theorem handlePendingRefresh_served :
    Served lim p.pendingRefresh p.refreshes (handlePendingRefresh lim p).refreshes := by
  unfold handlePendingRefresh
  cases h : (List.range lim.kNumDisplays).find? p.pendingRefresh with
  | none =>
      refine .inl ⟨fun d hd => ?_, rfl⟩
      simpa using List.find?_range_eq_none.1 h d hd
  | some d =>
      obtain ⟨hd, hlt, hbefore⟩ := List.find?_range_eq_some.1 h
      exact .inr ⟨d, List.mem_range.1 hlt, hd, fun e he => by simpa using hbefore e he, rfl⟩

theorem handlePendingRefresh_clears :
    ∀ d < lim.kNumDisplays, (handlePendingRefresh lim p).pendingRefresh d = false := by
  unfold handlePendingRefresh
  cases h : (List.range lim.kNumDisplays).find? p.pendingRefresh with
  | none => simpa using List.find?_range_eq_none.1 h
  | some d => exact fun _ _ => rfl

@[simp] theorem handlePendingRefresh_session : (handlePendingRefresh lim p).session = p.session := by
  unfold handlePendingRefresh
  split <;> rfl

@[simp] theorem handlePendingRefresh_needInvalidate :
    (handlePendingRefresh lim p).needInvalidate = p.needInvalidate := by
  unfold handlePendingRefresh
  split <;> rfl

@[simp] theorem handlePendingRefresh_sequenceWait :
    (handlePendingRefresh lim p).sequenceWait = p.sequenceWait := by
  unfold handlePendingRefresh
  split <;> rfl

end Pending

theorem presentFinish_eq {f : Factory} {i : Option (List HwDisplayInfo)} {display now : Nat}
    {st status : Hwc2Error} {p q : State}
    (h : presentFinish lim f i display now st p = some (status, q)) :
    ∃ s, Session.presentDisplay lim f i display now st p.session = some (status, s) ∧
      q = handlePendingRefresh lim { p with session := s } := by
  obtain ⟨⟨status', s⟩, hs, he⟩ := Option.map_eq_some'.1 h
  cases he
  exact ⟨s, hs, rfl⟩

/-! ## Runs -/

section Runs

variable {p q : State}

/-- A `PresentDisplay` that returns rejects its id, returns early with its sequence exited,
or ends in `HandlePendingRefresh` on the state its regions leave, with the slot table
`Session.presentDisplay` gives. -/
theorem presentDisplay_cases {f : Factory} {i : Option (List HwDisplayInfo)} {device : Bool}
    {display : Nat} {retireFence : Bool} {now : Nat} {r : DisplayReplies} {status : Hwc2Error}
    (hs : presentDisplay lim f i device display retireFence now r p = some (status, q)) :
    lim.kNumDisplays ≤ display ∧ q = p ∨
      display < lim.kNumDisplays ∧ presentPointers device retireFence = some status ∧
        q = p.setSequenceWait display .idle ∨
      display < lim.kNumDisplays ∧ presentPointers device retireFence = none ∧
        ∃ s, Session.presentDisplay lim f i display now
          (presentRegions display r p).1 p.session = some (status, s) ∧
          q = handlePendingRefresh lim { (presentRegions display r p).2 with session := s } := by
  unfold presentDisplay at hs
  split_ifs at hs with hk
  · cases hs
    exact .inl ⟨hk, rfl⟩
  split at hs
  · cases hs
    exact .inr (.inl ⟨by omega, ‹_›, rfl⟩)
  have hsess := presentRegions_session display r p
  rcases hr : presentRegions display r p with ⟨st, p'⟩
  rw [hr] at hs hsess
  obtain ⟨s, hs', rfl⟩ := presentFinish_eq hs
  rw [show p'.session = p.session from hsess] at hs'
  exact .inr (.inr ⟨by omega, ‹_›, s, hs', rfl⟩)

theorem createVirtualDisplay_session {f : Factory} {i : Option (List HwDisplayInfo)}
    {w h o : Nat} (hs : createVirtualDisplay lim f i w h o p = some q) :
    q = { p with session := (Session.createVirtualDisplay lim f i w h o p.session).2.2 } := by
  unfold createVirtualDisplay at hs
  dsimp only at hs
  split_ifs at hs
  exact (Option.some.inj hs).symm

/-- A uevent round ignores the message, raises `reset_panel_` with a `Refresh(0)`, or runs
the hotplug scan of `Session.hotplugEvent`. -/
theorem uevent_cases {f : Factory} {i : Option (List HwDisplayInfo)} {msg : List UInt8}
    (hs : uevent lim f i msg p = some q) :
    (uEventHandler (ueventThreadRound msg).ueventData (ueventThreadRound msg).length = .ok .ignore ∧
      q = p) ∨
    (uEventHandler (ueventThreadRound msg).ueventData (ueventThreadRound msg).length =
        .ok .resetPanel ∧ q = { p.refresh 0 with resetPanel := true }) ∨
    ∃ bpp pattern c s,
      uEventHandler (ueventThreadRound msg).ueventData (ueventThreadRound msg).length =
        .ok (.hotplug bpp pattern c) ∧
      hotplugEvent lim f i bpp pattern p.session = some s ∧ q = { p with session := s } := by
  unfold uevent at hs
  dsimp only at hs
  split at hs
  · cases hs
  · exact .inl ⟨‹_›, (Option.some.inj hs).symm⟩
  · exact .inr (.inl ⟨‹_›, (Option.some.inj hs).symm⟩)
  · obtain ⟨s, hs', rfl⟩ := Option.map_eq_some'.1 hs
    exact .inr (.inr ⟨_, _, _, s, ‹_›, hs', rfl⟩)

/-- One step runs `Op.session` on the slot table, or leaves it alone. -/
theorem step_session {op : Op} (h : step lim op p = some q) :
    match op.session p with
    | none => q.session = p.session
    | some o => Session.step lim o p.session = some q.session := by
  cases op with
  | registerCallback d ptr f i => cases h; rfl
  | validateDisplay d r => cases h; exact validateDisplay_session
  | presentDisplay dev d ret now r f i =>
      obtain ⟨⟨status, q'⟩, hs, rfl⟩ := Option.map_eq_some'.1 h
      rcases presentDisplay_cases hs with ⟨hk, rfl⟩ | ⟨-, he, rfl⟩ | ⟨-, he, s, hs', rfl⟩
      · simp only [Op.session]
        cases presentPointers dev ret <;> simp [Session.step, Session.presentDisplay, hk]
      · simp only [Op.session, he]
        rfl
      · simp [Op.session, he, Session.step, hs']
  | setPowerMode d m st => cases h; exact congrArg some (setPowerMode_session d m st p).symm
  | setActiveConfig d c => cases h; rfl
  | createVirtualDisplay w hh o f i => rw [createVirtualDisplay_session h]; rfl
  | destroyVirtualDisplay d => cases h; rfl
  | uevent msg f i =>
      rcases uevent_cases h with ⟨hu, rfl⟩ | ⟨hu, rfl⟩ | ⟨bpp, pattern, c, s, hu, hs, rfl⟩
      all_goals simp only [Op.session, hu]
      all_goals first | rfl | exact hs

/-- The slot table of every reachable state is one the session model reaches: the frame
calls and the uevent rounds change it only as the session's own operations do. -/
theorem Reachable.session (h : Reachable lim p) : Session.Reachable lim p.session := by
  induction h with
  | init r f i p h =>
      obtain ⟨s, hs, rfl⟩ := Option.map_eq_some'.1 h
      exact .init r f i s hs
  | step op _ h ih =>
      have hs := step_session h
      revert hs
      cases op.session _ with
      | none => exact fun hs => hs ▸ ih
      | some o => exact fun hs => .step o ih hs

theorem step_needInvalidate {op : Op} (h : step lim op p = some q) (hn : p.needInvalidate = false) :
    q.needInvalidate = false := by
  cases op with
  | registerCallback d ptr f i => cases h; rfl
  | validateDisplay d r => cases h; exact validateDisplay_needInvalidate d r hn
  | presentDisplay dev d ret now r f i =>
      obtain ⟨⟨status, q'⟩, hs, rfl⟩ := Option.map_eq_some'.1 h
      rcases presentDisplay_cases hs with ⟨-, rfl⟩ | ⟨-, -, rfl⟩ | ⟨-, -, s, -, rfl⟩
      · exact hn
      · exact hn
      · simpa using (presentRegions_of_needInvalidate d r hn).1
  | setPowerMode d m st => cases h; rw [setPowerMode_needInvalidate]; exact hn
  | setActiveConfig d c => cases h; exact hn
  | createVirtualDisplay w hh o f i => rw [createVirtualDisplay_session h]; exact hn
  | destroyVirtualDisplay d => cases h; exact hn
  | uevent msg f i =>
      rcases uevent_cases h with ⟨-, rfl⟩ | ⟨-, rfl⟩ | ⟨-, -, -, -, -, -, rfl⟩ <;> exact hn

theorem presentFinish_sequenceWait {f : Factory} {i : Option (List HwDisplayInfo)}
    {display now : Nat} {st status : Hwc2Error}
    (h : presentFinish lim f i display now st p = some (status, q)) :
    q.sequenceWait = p.sequenceWait := by
  obtain ⟨s, -, rfl⟩ := presentFinish_eq h
  exact handlePendingRefresh_sequenceWait _

/-- Only the frame calls move a slot's sequence. -/
theorem step_sequenceWait {op : Op} (h : step lim op p = some q) (hf : op.frame = false) :
    q.sequenceWait = p.sequenceWait := by
  cases op with
  | registerCallback d ptr f i => cases h; rfl
  | validateDisplay d r => cases hf
  | presentDisplay dev d ret now r f i => cases hf
  | setPowerMode d m st => cases h; exact setPowerMode_sequenceWait d m st p
  | setActiveConfig d c => cases h; rfl
  | createVirtualDisplay w hh o f i => rw [createVirtualDisplay_session h]
  | destroyVirtualDisplay d => cases h; rfl
  | uevent msg f i =>
      rcases uevent_cases h with ⟨-, rfl⟩ | ⟨-, rfl⟩ | ⟨-, -, -, -, -, -, rfl⟩ <;> rfl

/-- No operation raises `need_invalidate_`: nothing in these sources sets it, so in every
reachable state it is down, and the invalidate branch of `ValidateDisplayInternal`, with its
`Refresh`, never runs. -/
theorem needInvalidate_of_reachable (h : Reachable lim p) : p.needInvalidate = false := by
  induction h with
  | init r f i p h =>
      obtain ⟨s, -, rfl⟩ := Option.map_eq_some'.1 h
      rfl
  | step op _ h ih => exact step_needInvalidate h ih

theorem Reachable.run : ∀ {p q : State} {ops : List Op}, Reachable lim p →
    run lim ops p = some q → Reachable lim q
  | _, _, [], hp, h => Option.some.inj h ▸ hp
  | _, _, op :: _, hp, h => by
      obtain ⟨p', hp', h'⟩ := Option.bind_eq_some.1 h
      exact (Reachable.step op hp hp').run h'

theorem init_sequenceWait {r : HwReport} {f : Factory} {i : Option (List HwDisplayInfo)}
    (h : init lim r f i = some p) : ∀ d, p.sequenceWait d = .idle := by
  obtain ⟨s, -, rfl⟩ := Option.map_eq_some'.1 h
  exact fun _ => rfl

/-- The state a run from a successful `Init` ends in is reachable. -/
theorem reachable_of_bind {r : HwReport} {f : Factory} {i : Option (List HwDisplayInfo)}
    {ops : List Op} (h : (init lim r f i).bind (run lim ops) = some q) : Reachable lim q := by
  obtain ⟨p, hp, h'⟩ := Option.bind_eq_some.1 h
  exact (Reachable.init r f i p hp).run h'

/-- `Init`, the client's hotplug registration, and `SetPowerMode(HWC_DISPLAY_PRIMARY, Doze)`,
which leaves the primary's refresh pending. -/
def dozeState : State :=
  ((Pipeline.init lim4 bootReport factory60 (some bootDisplays)).bind (run lim4
    [.registerCallback .hotplug true factory60 (some bootDisplays),
     .setPowerMode hwcDisplayPrimary 1 .none])).get (by decide)

/-- In every reachable state, a `PresentDisplay` of a display in the table either returns
early on a null device or retire-fence pointer, with the status of that check and the
pending bits, the refreshes and the slot table left alone; or it clears every pending bit,
refreshes the lowest pending display (every other pending display is dropped unserved), and
asks for no other refresh but the `Refresh(0)`s of the primary's first hotplug scan. -/
theorem presentDisplay_refreshes (hp : Reachable lim p) {f : Factory}
    {i : Option (List HwDisplayInfo)} {device : Bool} {display : Nat} {retireFence : Bool}
    {now : Nat} {r : DisplayReplies} {status : Hwc2Error} (hk : display < lim.kNumDisplays)
    (hs : presentDisplay lim f i device display retireFence now r p = some (status, q)) :
    (device = false ∨ retireFence = false →
      status = (if device then .badParameter else .badDisplay) ∧
        q.pendingRefresh = p.pendingRefresh ∧ q.refreshes = p.refreshes ∧ q.session = p.session) ∧
    (device = true → retireFence = true →
      (∀ d < lim.kNumDisplays, q.pendingRefresh d = false) ∧
        Served lim p.pendingRefresh p.refreshes q.refreshes ∧
        ∃ new, q.session.refreshes = new ++ p.session.refreshes ∧ (∀ c ∈ new, c = 0) ∧
          (new ≠ [] → display = hwcDisplayPrimary ∧ p.session.primaryReady = false)) := by
  rcases presentDisplay_cases hs with ⟨hk', -⟩ | ⟨-, he, rfl⟩ | ⟨-, he, s, hs', rfl⟩
  · omega
  · clear hs hp
    cases device <;> cases retireFence <;> simp_all [presentPointers]
  · obtain ⟨rfl, rfl⟩ := presentPointers_eq_none.1 he
    refine ⟨fun hnull => by simp at hnull, fun _ _ => ⟨handlePendingRefresh_clears _, ?_,
      by simpa using presentDisplay_refreshLog hs'⟩⟩
    rw [← (presentRegions_of_needInvalidate display r (needInvalidate_of_reachable hp)).2,
      ← presentRegions_pendingRefresh display r p]
    exact handlePendingRefresh_served { (presentRegions display r p).2 with session := s }

/-- A display that validates and presents without changes. -/
def DisplayReplies.plain : DisplayReplies := ⟨false, .none, .none, false, true, false, .none⟩

/-- The primary's first present after `dozeState`. -/
def dozePresented : Hwc2Error × State :=
  (presentDisplay lim4 factory60 (some bootDisplays) true hwcDisplayPrimary true 0 .plain
    dozeState).get (by decide)

theorem presentDisplay_refreshes_after_doze :
    Reachable lim4 dozeState ∧ hwcDisplayPrimary < lim4.kNumDisplays ∧
      presentDisplay lim4 factory60 (some bootDisplays) true hwcDisplayPrimary true 0 .plain
        dozeState = some dozePresented ∧
      (∀ d < lim4.kNumDisplays, dozePresented.2.pendingRefresh d = false) ∧
      Served lim4 dozeState.pendingRefresh dozeState.refreshes dozePresented.2.refreshes :=
  have hr : Reachable lim4 dozeState := reachable_of_bind (Option.some_get _).symm
  have hs : presentDisplay lim4 factory60 (some bootDisplays) true hwcDisplayPrimary true 0 .plain
      dozeState = some dozePresented := (Option.some_get _).symm
  have h := (presentDisplay_refreshes hr (by decide) hs).2 rfl rfl
  ⟨hr, by decide, hs, h.1, h.2.1⟩

end Runs

end HwcSession.Pipeline
