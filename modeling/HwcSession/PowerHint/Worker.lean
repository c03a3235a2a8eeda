import HwcSession.PowerHint.Service
import HwcSession.PowerHint.Binary32

/-!
# `PowerHalHintWorker`

The worker keeps the power HAL informed of the display's refresh rate and of idle
windows. Its state is the member list of the C++ class; the binder traffic it has
produced so far is kept beside it in `calls`, so that the service's state
(`hintEnabled`) can be read off any worker state.

Each method is a function returning its `int32_t` status and the new state. Methods
that take the worker's lock are modelled as single steps: this module fixes what each
method computes, and the interleavings of `Routine` with the signal setters are a
separate concern.

The refresh rate is `round(nsecsPerSec / vsyncPeriod * 0.1f) * 10`, computed in `float`
(`refreshRateOf`, over the binary32 operations of `Binary32`). The float rounding moves some
periods to the next multiple of 10 Hz: `10526316` ns gives `100`, where the exact quotient
would round to `90`.
-/

namespace HwcSession.PowerHint

open HwcSession.Basic

/-- `nsecsIdleHintTimeout`: 100 ms in nanoseconds. -/
def nsecsIdleHintTimeout : Nat := 100000000

/-- The refresh rate `updateRefreshRateHintInternal` derives from a vsync period (ns):
`static_cast<int>(round(nsecsPerSec / vsyncPeriod * 0.1f) * 10)`, each step in `float`. A
period of `0` makes the quotient infinite, whose conversion to `int` C++ leaves undefined;
the model takes the `INT32_MAX` that AArch64's `FCVTZS` saturates it to. -/
def refreshRateOf (vsyncPeriod : Nat) : Int :=
  if vsyncPeriod = 0 then 2 ^ 31 - 1
  else
    let rate := (nsecsPerSec.div (.ofNat vsyncPeriod)).mul tenth
    ((Binary32.ofNat rate.roundHalfAway).mul (.ofNat 10)).trunc

/-- 60 Hz, then the periods where `float` and exact rounding part: the code gives `100`, `90`
and `10` where the exact quotients round to `90`, `80` and `0`. -/
example : refreshRateOf 16666666 = 60 ∧ refreshRateOf 10526316 = 100 ∧
    refreshRateOf 11764706 = 90 ∧ refreshRateOf 200000001 = 10 ∧
    refreshRateOf 1000000000 = 0 := by
  decide

/-- The members of `HWCSession::PowerHalHintWorker`, with the calls it has made to the
power HAL extension (newest first). `mPowerHalExtAidl` is not kept: whether a call finds
a connected service is part of the reply the service gives it. -/
structure PowerHalHintWorker where
  needUpdateRefreshRateHint : Bool
  prevRefreshRate : Int
  pendingPrevRefreshRate : Int
  refreshRateHintSupportMap : Int → Option Bool
  idleHintIsEnabled : Bool
  idleHintDeadlineTime : Nat
  idleHintSupportIsChecked : Bool
  idleHintIsSupported : Bool
  powerModeState : PowerMode
  vsyncPeriod : Nat
  calls : List HalCall

namespace PowerHalHintWorker

/-- The constructor's initial values. -/
def init : PowerHalHintWorker where
  needUpdateRefreshRateHint := false
  prevRefreshRate := 0
  pendingPrevRefreshRate := 0
  refreshRateHintSupportMap := fun _ => none
  idleHintIsEnabled := false
  idleHintDeadlineTime := 0
  idleHintSupportIsChecked := false
  idleHintIsSupported := false
  powerModeState := .off
  vsyncPeriod := 16666666
  calls := []

/-- The worker after making the binder call `c`. -/
def record (c : HalCall) (w : PowerHalHintWorker) : PowerHalHintWorker :=
  { w with calls := c :: w.calls }

end PowerHalHintWorker

variable (hal : PowerHal)

/-- The status a binder reply is turned into by `sendPowerHalExtHint` and
`checkPowerHalExtHintSupport`: `EX_TRANSACTION_FAILED` is `-ENOTCONN`, any other failure
`-EINVAL`. -/
def statusOf : Reply → Int
  | .ok => noError
  | .failed => -eInval
  | .transactionFailed => -eNotConn

/-- `sendPowerHalExtHint(mode, enabled)`: one `setMode` call. -/
def sendPowerHalExtHint (mode : Hint) (enabled : Bool) (w : PowerHalHintWorker) :
    Int × PowerHalHintWorker :=
  let reply := hal.reply w.calls.length
  (statusOf reply, w.record (.setMode mode enabled reply))

/-- `checkPowerHalExtHintSupport(mode)`: one `isModeSupported` call. -/
def checkPowerHalExtHintSupport (mode : Hint) (w : PowerHalHintWorker) :
    Int × PowerHalHintWorker :=
  let reply := hal.reply w.calls.length
  let supported := hal.supported w.calls.length
  let w := w.record (.isModeSupported mode reply supported)
  match reply with
  | .ok => (if supported then noError else -eOpNotSupp, w)
  | r => (statusOf r, w)

/-- `checkRefreshRateHintSupport(refreshRate)`: the cached answer, or a query whose
definite answer (supported or `-EOPNOTSUPP`) is cached. -/
def checkRefreshRateHintSupport (refreshRate : Int) (w : PowerHalHintWorker) :
    Int × PowerHalHintWorker :=
  match w.refreshRateHintSupportMap refreshRate with
  | none =>
      let (ret, w) := checkPowerHalExtHintSupport hal (.refresh refreshRate) w
      if ret = noError ∨ ret = -eOpNotSupp then
        (ret, { w with refreshRateHintSupportMap :=
          Function.update w.refreshRateHintSupportMap refreshRate (some (ret = noError)) })
      else (ret, w)
  | some supported => (if supported then noError else -eOpNotSupp, w)

/-- `sendRefreshRateHint(refreshRate, enabled)`: a binder failure resets the refresh
rate bookkeeping. -/
def sendRefreshRateHint (refreshRate : Int) (enabled : Bool) (w : PowerHalHintWorker) :
    Int × PowerHalHintWorker :=
  let (ret, w) := sendPowerHalExtHint hal (.refresh refreshRate) enabled w
  if ret = -eNotConn then (ret, { w with prevRefreshRate := 0, pendingPrevRefreshRate := 0 })
  else (ret, w)

/-- The `powerMode != On` branch of `updateRefreshRateHintInternal`: disable the
previous rate's hint. -/
def disableRefreshRateHint (w : PowerHalHintWorker) : Int × PowerHalHintWorker :=
  if w.prevRefreshRate ≠ 0 then
    let (ret, w) := sendRefreshRateHint hal w.prevRefreshRate false w
    if ret = noError then (ret, { w with prevRefreshRate := 0 }) else (ret, w)
  else (noError, w)

/-- The switch to `refreshRate` in `updateRefreshRateHintInternal`, after its support was
confirmed: enable the new hint first, then disable the previous one, keeping a hint that
fails to be disabled as pending. -/
def switchRefreshRateHint (refreshRate : Int) (w : PowerHalHintWorker) :
    Int × PowerHalHintWorker :=
  let (ret, w) := sendRefreshRateHint hal refreshRate true w
  if ret ≠ noError then (ret, w)
  else if w.prevRefreshRate ≠ 0 then
    let prev := w.prevRefreshRate
    let (ret, w) := sendRefreshRateHint hal prev false w
    if ret ≠ noError then
      if ret ≠ -eNotConn then
        (ret, { w with pendingPrevRefreshRate := prev, prevRefreshRate := refreshRate })
      else (ret, w)
    else (ret, { w with prevRefreshRate := refreshRate })
  else (ret, { w with prevRefreshRate := refreshRate })

/-- The `powerMode == On` branch of `updateRefreshRateHintInternal`. -/
def enableRefreshRateHint (vsyncPeriod : Nat) (w : PowerHalHintWorker) :
    Int × PowerHalHintWorker :=
  let refreshRate := refreshRateOf vsyncPeriod
  if w.prevRefreshRate = refreshRate then (noError, w)
  else
    let (ret, w) := checkRefreshRateHintSupport hal refreshRate w
    if ret ≠ noError then (ret, w) else switchRefreshRateHint hal refreshRate w

/-- `updateRefreshRateHintInternal(powerMode, vsyncPeriod)`: retry the pending disable
first, then follow the power mode. -/
def updateRefreshRateHintInternal (powerMode : PowerMode) (vsyncPeriod : Nat)
    (w : PowerHalHintWorker) : Int × PowerHalHintWorker :=
  let go (w : PowerHalHintWorker) :=
    if powerMode ≠ .on then disableRefreshRateHint hal w
    else enableRefreshRateHint hal vsyncPeriod w
  if w.pendingPrevRefreshRate ≠ 0 then
    let (ret, w) := sendRefreshRateHint hal w.pendingPrevRefreshRate false w
    if ret = noError then go { w with pendingPrevRefreshRate := 0 } else (ret, w)
  else go w

/-- `checkIdleHintSupport()`: the cached answer, or a query whose definite answer is
cached. -/
def checkIdleHintSupport (w : PowerHalHintWorker) : Int × PowerHalHintWorker :=
  if w.idleHintSupportIsChecked then
    (if w.idleHintIsSupported then noError else -eOpNotSupp, w)
  else
    let (ret, w) := checkPowerHalExtHintSupport hal .displayIdle w
    if ret = noError then
      (ret, { w with idleHintIsSupported := true, idleHintSupportIsChecked := true })
    else if ret = -eOpNotSupp then (ret, { w with idleHintSupportIsChecked := true })
    else (ret, w)

/-- `updateIdleHint(deadlineTime)` at monotonic time `now`: the idle hint should be on
exactly when the deadline has passed. -/
def updateIdleHint (deadlineTime now : Nat) (w : PowerHalHintWorker) :
    Int × PowerHalHintWorker :=
  let (ret, w) := checkIdleHintSupport hal w
  if ret ≠ noError then (ret, w)
  else
    let enableIdleHint := decide (deadlineTime < now)
    if w.idleHintIsEnabled ≠ enableIdleHint then
      let (ret, w) := sendPowerHalExtHint hal .displayIdle enableIdleHint w
      if ret = noError then (ret, { w with idleHintIsEnabled := enableIdleHint }) else (ret, w)
    else (ret, w)

/-- `signalRefreshRate(powerMode, vsyncPeriod)`. -/
def signalRefreshRate (powerMode : PowerMode) (vsyncPeriod : Nat) (w : PowerHalHintWorker) :
    PowerHalHintWorker :=
  { w with powerModeState := powerMode, vsyncPeriod := vsyncPeriod,
           needUpdateRefreshRateHint := true }

/-- `signalIdle()` at monotonic time `now`: a no-op once the idle hint is known to be
unsupported. -/
def signalIdle (now : Nat) (w : PowerHalHintWorker) : PowerHalHintWorker :=
  if w.idleHintSupportIsChecked ∧ ¬w.idleHintIsSupported then w
  else { w with idleHintDeadlineTime := now + nsecsIdleHintTimeout }

/-- What `Routine()` does, with the lock held, before it takes the signalled values: no
wait, `WaitForSignalOrExitLocked()`, or `WaitForSignalOrExitLocked(timeout)`. -/
inductive RoutineWait where
  | noWait
  | untimed
  | timed (timeout : Nat)
  deriving DecidableEq, Repr

/-- The wait at the top of `Routine()` at monotonic time `now`: none while a refresh rate
update is pending, an untimed one while the idle hint is unsupported or already enabled,
and otherwise a wait until the idle deadline. `uint_t` is 32 bits wide, so `currentTime`
holds the low 32 bits of the clock, and the timeout is cut to 32 bits as well. -/
def routineWait (now : Nat) (w : PowerHalHintWorker) : RoutineWait :=
  if w.needUpdateRefreshRateHint then .noWait
  else if !w.idleHintIsSupported || w.idleHintIsEnabled then .untimed
  else
    let currentTime := now % 2 ^ 32
    if w.idleHintDeadlineTime > currentTime then
      .timed ((w.idleHintDeadlineTime - currentTime) % 2 ^ 32)
    else .noWait

/-- The part of `Routine()` after its wait returned without `-EINTR`: take the signalled
values, clear the update flag, update the idle hint, then the refresh rate hint, and ask
for another round when that failed for a reason other than lack of support while the
display is on. -/
def routineBody (now : Nat) (w : PowerHalHintWorker) : PowerHalHintWorker :=
  let needUpdate := w.needUpdateRefreshRateHint
  let deadlineTime := w.idleHintDeadlineTime
  let powerMode := w.powerModeState
  let vsyncPeriod := w.vsyncPeriod
  let w := { w with needUpdateRefreshRateHint := false }
  let w := (updateIdleHint hal deadlineTime now w).2
  if needUpdate then
    let (rc, w) := updateRefreshRateHintInternal hal powerMode vsyncPeriod w
    if rc ≠ noError ∧ rc ≠ -eOpNotSupp ∧ w.powerModeState = .on then
      { w with needUpdateRefreshRateHint := true }
    else w
  else w

end HwcSession.PowerHint
