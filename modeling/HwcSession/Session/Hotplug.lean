import HwcSession.Session.Concurrency

/-!
# Hotplug scans

`CreatePluggableDisplays` compares the slot table with a fresh hardware snapshot: it
destroys the pluggable displays the snapshot no longer lists as connected, then creates
one for each connected pluggable display in the first free pluggable slot, and notifies
the client of the new ones. `HandleBuiltInDisplays` fills the builtin pool once, when the
client registers its hotplug callback.

Each display factory's reply is the environment's (`Factory`); the `Refresh(0)` calls are
recorded, and `usleep` and `ResetValidation` change nothing the model keeps. The loops over
the snapshot return early with the failing factory's status, keeping what they did before.
-/

namespace HwcSession.Session

open HwcSession.Basic

variable (lim : Limits)

/-! ## Destroying a display -/

/-- `DestroyNonPluggableDisplay(map_info)`: `HWCDisplayBuiltIn::Destroy` or
`HWCDisplayVirtual::Destroy`, then the slot is reset. -/
def destroyNonPluggableDisplay (clientId : Nat) (s : State) : State :=
  if s.occupied clientId then (s.setDisplay clientId none).setMapInfo clientId .reset else s

/-- `DestroyPluggableDisplay(map_info)`. The client hears of the disconnection, and the
primary is refreshed, before the slot is looked at; a primary pluggable display is only
`SetState(false)`, which the model does not keep. -/
def destroyPluggableDisplay (clientId : Nat) (s : State) : State :=
  let s := (if ¬s.pluggableIsPrimary then s.hotplug clientId .disconnected else s).refresh 0
  if ¬s.occupied clientId then s
  else if s.pluggableIsPrimary then s
  else handleConcurrency lim clientId ((s.setDisplay clientId none).setMapInfo clientId .reset)

/-- `DestroyDisplay(map_info)`: dispatch on the slot's `disp_type`. -/
def destroyDisplay (clientId : Nat) (info : MapInfo) (s : State) : State :=
  match info.dispType with
  | .pluggable => destroyPluggableDisplay lim clientId s
  | _ => destroyNonPluggableDisplay clientId s

/-- No entry of the snapshot with this sdm id is connected. -/
def disconnected (hwDisplaysInfo : List HwDisplayInfo) (sdmId : Int) : Bool :=
  !hwDisplaysInfo.any fun info => info.displayId = sdmId && info.isConnected

/-- `HandleDisconnectedDisplays(hw_displays_info)`, which always returns `0`. In
pluggable-primary mode the primary's slot is passed as a copy; its disconnection only
reaches `SetState(false)`. -/
def handleDisconnectedDisplays (hwDisplaysInfo : List HwDisplayInfo) (s : State) : State :=
  let s :=
    if s.pluggableIsPrimary ∧ disconnected hwDisplaysInfo (s.mapInfo hwcDisplayPrimary).sdmId then
      destroyDisplay lim hwcDisplayPrimary (s.mapInfo hwcDisplayPrimary) s
    else s
  s.mapInfoPluggable.foldl (fun s clientId =>
    if disconnected hwDisplaysInfo (s.mapInfo clientId).sdmId then
      destroyDisplay lim clientId (s.mapInfo clientId) s
    else s) s

/-! ## Creating displays -/

/-- The first slot of `pool` without a display: the slot search of
`HandleConnectedDisplays` and `CreateVirtualDisplayObj`. -/
def firstFreeSlot (pool : List Nat) (s : State) : Option Nat := pool.find? fun c => !s.occupied c

/-- One entry of the scan in `HandleConnectedDisplays`, with the slots created so far
(`pending_hotplugs`, newest first). An error carries the status returned and the state
reached. -/
def connectDisplay (f : Factory) (info : HwDisplayInfo) (pending : List Nat) (s : State) :
    Except (Int × State) (List Nat × State) :=
  if s.pluggableIsPrimary ∧ s.occupied hwcDisplayPrimary ∧ info.isPrimary ∧
      info.displayType = .pluggable ∧ info.isConnected ∧ f.stateStatus info.displayId ≠ 0 then
    .error (f.stateStatus info.displayId, s)
  else
    let s := if s.pluggableIsPrimary then s.refresh 0 else s
    if ¬s.pluggableIsPrimary ∧
        (info.isPrimary ∨ info.displayType ≠ .pluggable ∨ ¬info.isConnected) then
      .ok (pending, s)
    else
      match firstFreeSlot s.mapInfoPluggable s with
      | none => .ok (pending, s)
      | some clientId =>
          let testPattern := decide (0 < s.hpdBpp) && decide (0 < s.hpdPattern)
          let s := s.setMapInfo clientId { s.mapInfo clientId with testPattern := testPattern }
          let status := f.status info.displayId
          if status ≠ 0 then .error (status, s)
          else
            let displayClass := if testPattern then DisplayClass.pluggableTest else .pluggable
            let s := s.setDisplay clientId
              (some (.create displayClass info.displayId (f.vsyncPeriods info.displayId)))
            let s := s.setMapInfo clientId
              { s.mapInfo clientId with dispType := info.displayType, sdmId := info.displayId }
            .ok (clientId :: pending, handleConcurrency lim clientId s)

/-- The scan of `HandleConnectedDisplays` over the snapshot. -/
def connectDisplays (f : Factory) :
    List HwDisplayInfo → List Nat → State → Except (Int × State) (List Nat × State)
  | [], pending, s => .ok (pending, s)
  | info :: rest, pending, s =>
      match connectDisplay lim f info pending s with
      | .error e => .error e
      | .ok (pending, s) => connectDisplays f rest pending s

/-- `HandleConnectedDisplays(hw_displays_info, delay_hotplug)`: when the scan created a
display, the primary is refreshed, and each new display is announced and handled again, in
the order of creation. -/
def handleConnectedDisplays (f : Factory) (hwDisplaysInfo : List HwDisplayInfo) (s : State) :
    Int × State :=
  match connectDisplays lim f hwDisplaysInfo [] s with
  | .error (status, s) => (status, s)
  | .ok ([], s) => (0, s)
  | .ok (pending, s) =>
      (0, pending.reverse.foldl (fun s clientId =>
        handleConcurrency lim clientId (s.hotplug clientId .connected)) (s.refresh 0))

/-- `CreatePluggableDisplays(delay_hotplug)`; `none` is the `abort()` taken when the
primary is a pluggable display that was never connected, and `hwDisplaysInfo` is `none`
when `GetDisplaysStatus` fails. -/
def createPluggableDisplays (f : Factory) (hwDisplaysInfo : Option (List HwDisplayInfo))
    (s : State) : Option (Int × State) :=
  if ¬s.primaryReady then some (0, s)
  else if s.nullDisplayActive then none
  else
    match hwDisplaysInfo with
    | none => some (-eInval, s)
    | some infos => some (handleConnectedDisplays lim f infos (handleDisconnectedDisplays lim infos s))

/-- The loop of `HandleBuiltInDisplays`: `clientId` indexes the builtin pool and, as in
the source, goes up by two for each display created. -/
def createBuiltIns (f : Factory) (pool : List Nat) : Nat → List HwDisplayInfo → State → State
  | _, [], s => s
  | clientId, info :: rest, s =>
      if info.isPrimary ∨ info.displayType ≠ .builtIn ∨ ¬info.isConnected then
        createBuiltIns f pool clientId rest s
      else
        match pool[clientId]? with
        | none => s
        | some c =>
            if f.status info.displayId ≠ 0 then s
            else
              let s := s.setDisplay c
                (some (.create .builtIn info.displayId (f.vsyncPeriods info.displayId)))
              let s := s.setMapInfo c
                { s.mapInfo c with dispType := info.displayType, sdmId := info.displayId }
              createBuiltIns f pool (clientId + 1 + 1) rest s

/-- `HandleBuiltInDisplays()`. -/
def handleBuiltInDisplays (f : Factory) (hwDisplaysInfo : Option (List HwDisplayInfo))
    (s : State) : State :=
  match hwDisplaysInfo with
  | none => s
  | some infos => createBuiltIns f s.mapInfoBuiltin 0 infos s

end HwcSession.Session
