import HwcSession.Session.Hotplug
import HwcSession.PowerHint.Worker

/-!
# The session's operations

The entry points of `HWCSession` that change the slot table, the concurrency state or
the power hint signal: `Init`, `RegisterCallback`, `PresentDisplay`, `SetPowerMode`,
`SetActiveConfig`, `CreateVirtualDisplay`, `DestroyVirtualDisplay` and the hotplug
uevent. `step` runs one of them with its arguments and the environment's replies;
`Reachable` is every state a run from `Init` reaches. The device pointer is never null
here, and the output pointers are valid.
-/

namespace HwcSession.Session

open HwcSession.Basic HwcSession.PowerHint

variable (lim : Limits)

/-! ## Initialisation -/

/-- What `InitSupportedDisplaySlots` asks the core: the primary's display type and the
maxima of `GetMaxDisplaysSupported`; `none` for a query that failed. -/
structure HwReport where
  primaryType : Option DisplayType
  maxBuiltin : Option Int
  maxPluggable : Option Int
  maxVirtual : Option Int

/-- `UINT32(std::min(max, kNum))`. -/
def slotCount (max : Int) (kNum : Nat) : Nat := (min max kNum % 2 ^ 32).toNat

/-- `InitSupportedDisplaySlots()`: the client ids of the pluggable, builtin and virtual
pools, consecutive from `DISPLAY_EXTERNAL`; all empty when a query failed. The model hands
out every slot of a pool; on a device, `map_info_*.resize` of a pool of `2 ^ 32 - 1` slots
throws `std::bad_alloc` instead. -/
def initSupportedDisplaySlots (r : HwReport) : List Nat × List Nat × List Nat :=
  match r.primaryType, r.maxBuiltin, r.maxPluggable, r.maxVirtual with
  | some t, some maxBuiltin, some maxPluggable, some maxVirtual =>
      let maxPluggable := if t = .pluggable then maxPluggable - 1 else maxPluggable
      let maxBuiltin := if t = .pluggable then maxBuiltin else maxBuiltin - 1
      let p := slotCount maxPluggable lim.kNumPluggable
      let b := slotCount maxBuiltin lim.kNumBuiltIn
      let v := slotCount maxVirtual lim.kNumVirtual
      (List.range' 1 p, List.range' (1 + p) b, List.range' (1 + p + b) v)
  | _, _, _, _ => ([], [], [])

/-- The size `InitSupportedDisplaySlots` gives `is_hdr_display_`: `UINT32(base_id)`, where
the 64-bit `base_id` is one past the last client id handed out; `0` when a query failed and
the vector is never resized. -/
def isHdrDisplaySize (r : HwReport) : Nat :=
  match r.primaryType, r.maxBuiltin, r.maxPluggable, r.maxVirtual with
  | some _, some _, some _, some _ =>
      let pools := initSupportedDisplaySlots lim r
      (1 + pools.1.length + pools.2.1.length + pools.2.2.length) % 2 ^ 32
  | _, _, _, _ => 0

/-- The display class `CreatePrimaryDisplay` creates for the primary entry, with
`pluggable_is_primary_` and `null_display_active_`; `none` for a spurious type. -/
def primaryClass (info : HwDisplayInfo) : Option (DisplayClass × Bool × Bool) :=
  if ¬info.isConnected ∧ info.displayType = .pluggable then some (.dummy, true, true)
  else if info.displayType = .builtIn then some (.builtIn, false, false)
  else if info.isConnected ∧ info.displayType = .pluggable then some (.pluggable, true, false)
  else none

/-- `CreatePrimaryDisplay()`: the first primary entry of the snapshot goes to slot `0`. -/
def createPrimaryDisplay (f : Factory) (hwDisplaysInfo : Option (List HwDisplayInfo))
    (s : State) : Int × State :=
  match hwDisplaysInfo.bind (List.find? (·.isPrimary)) with
  | none => (1, s)
  | some info =>
      match primaryClass info with
      | none => (1, s)
      | some (displayClass, pluggableIsPrimary, nullDisplayActive) =>
          let s := { s with pluggableIsPrimary := s.pluggableIsPrimary || pluggableIsPrimary,
                            nullDisplayActive := s.nullDisplayActive || nullDisplayActive }
          let status := f.status info.displayId
          if status ≠ 0 then (status, s)
          else
            let s := s.setDisplay hwcDisplayPrimary
              (some (.create displayClass info.displayId (f.vsyncPeriods info.displayId)))
            (0, s.setMapInfo hwcDisplayPrimary
              { s.mapInfo hwcDisplayPrimary with dispType := info.displayType,
                                                 sdmId := info.displayId })

/-- `Init()`: the slot layout, then the primary display; `none` when `Init` fails and
calls `Deinit()`. -/
def init (r : HwReport) (f : Factory) (hwDisplaysInfo : Option (List HwDisplayInfo)) :
    Option State :=
  let (status, s) :=
    createPrimaryDisplay f hwDisplaysInfo (.empty (initSupportedDisplaySlots lim r))
  if status = 0 then some s else none

/-! ## Client calls -/

/-- The callbacks a client registers. -/
inductive Callback where
  | hotplug | refresh | vsync
  deriving DecidableEq, Repr

/-- `RegisterCallback(descriptor, pointer)`; `pointer` is whether the function pointer is
non-null. The first hotplug registration maps the builtin displays; every one announces
the displays in the table. -/
def registerCallback (f : Factory) (hwDisplaysInfo : Option (List HwDisplayInfo))
    (descriptor : Callback) (pointer : Bool) (s : State) : State :=
  let s := if descriptor = .hotplug then { s with hotplugRegistered := pointer } else s
  if descriptor = .hotplug ∧ pointer then
    let s := if ¬s.clientConnected then handleBuiltInDisplays f hwDisplaysInfo s else s
    let s := (List.range lim.kNumDisplays).foldl (fun s disp =>
      if s.occupied disp then s.hotplug disp .connected else s) s
    { s with clientConnected := true }
  else s

/-- `PresentDisplay(display)` at monotonic time `now`; `presentStatus` is what
`PresentDisplayInternal` returns. The primary's first present makes the primary ready
and, with a builtin primary, scans for pluggable displays; `none` is that scan's
`abort()`. -/
def presentDisplay (f : Factory) (hwDisplaysInfo : Option (List HwDisplayInfo))
    (display now : Nat) (presentStatus : Hwc2Error) (s : State) : Option (Hwc2Error × State) :=
  if lim.kNumDisplays ≤ display then some (.badDisplay, s)
  else
    let (status, s) :=
      if s.occupied display then
        (presentStatus, { s with powerHalHint := signalIdle now s.powerHalHint })
      else (Hwc2Error.badDisplay, s)
    if ¬s.primaryReady ∧ display = hwcDisplayPrimary then
      let s := { s with primaryReady := true }
      if ¬s.pluggableIsPrimary then
        (createPluggableDisplays lim f hwDisplaysInfo s).map fun r => (status, r.2)
      else some (status, s)
    else some (status, s)

/-- `GetVsyncPeriod(disp)`: the vsync period of config `0`, or `1000000000 / 60` when the
slot is empty or has no config. -/
def State.getVsyncPeriod (s : State) (disp : Nat) : Int :=
  match s.hwcDisplay disp with
  | some d => (d.vsyncPeriods.head?.map Int.ofNat).getD (1000000000 / 60)
  | none => 1000000000 / 60

/-- `updateRefreshRateHint()`: signal the worker with the primary's last power mode and
`static_cast<uint_t>(GetVsyncPeriod(HWC_DISPLAY_PRIMARY))`, when that is nonzero. -/
def updateRefreshRateHint (s : State) : State :=
  let vsyncPeriod := (s.getVsyncPeriod hwcDisplayPrimary % 2 ^ 32).toNat
  match s.hwcDisplay hwcDisplayPrimary with
  | some p =>
      if vsyncPeriod ≠ 0 then
        { s with powerHalHint := signalRefreshRate p.lastPowerMode vsyncPeriod s.powerHalHint }
      else s
  | none => s

/-- `GetDozeSupport(device, display, out_support)` for an id inside the table: the primary
and the slot `GetNextBuiltinIndex()` names support doze, whether or not a display is there. -/
def getDozeSupport (display : Nat) (s : State) : Bool :=
  display = hwcDisplayPrimary || display = s.getNextBuiltinIndex

/-- Modelled from the spec: a display's `SetPowerMode` that succeeds makes `mode` its last
power mode. `SetPowerMode(display, int_mode)`; `displayStatus` is what the display's
`SetPowerMode` returns. -/
def setPowerMode (display : Nat) (intMode : Int) (displayStatus : Hwc2Error) (s : State) :
    Hwc2Error × State :=
  if lim.kNumDisplays ≤ display then (.badDisplay, s)
  else
    match PowerMode.ofInt? intMode with
    | none => (.badParameter, s)
    | some mode =>
        if !getDozeSupport display s ∧ (mode = .doze ∨ mode = .dozeSuspend) then (.unsupported, s)
        else
          match s.hwcDisplay display with
          | none => (.badDisplay, s)
          | some d =>
              if displayStatus ≠ .none then (displayStatus, s)
              else
                let s := s.setDisplay display (some { d with lastPowerMode := mode })
                (.none, updateRefreshRateHint (handleConcurrency lim display s))

/-- Modelled from the spec: a display accepts a config of its table and rejects any other
with `BadConfig`. `SetActiveConfig(display, config)`. -/
def setActiveConfig (display config : Nat) (s : State) : Hwc2Error × State :=
  if lim.kNumDisplays ≤ display then (.badDisplay, s)
  else
    match s.hwcDisplay display with
    | none => (.badDisplay, s)
    | some d =>
        if config < d.vsyncPeriods.length then
          (.none, s.setDisplay display (some { d with activeConfig := config }))
        else (.badConfig, s)

/-- The loop of `CreateVirtualDisplayObj`: each virtual entry of the snapshot takes the
first free virtual slot; `out` is `*out_display_id`. -/
def createVirtuals (f : Factory) : List HwDisplayInfo → Nat → State → Except (Nat × State) (Nat × State)
  | [], out, s => .ok (out, s)
  | info :: rest, out, s =>
      if info.displayType ≠ .virtual then createVirtuals f rest out s
      else
        match firstFreeSlot s.mapInfoVirtual s with
        | none => createVirtuals f rest out s
        | some clientId =>
            if f.status info.displayId ≠ 0 then .error (out, s)
            else
              let s := s.setDisplay clientId
                (some (.create .virtual info.displayId (f.vsyncPeriods info.displayId)))
              let s := s.setMapInfo clientId
                { s.mapInfo clientId with dispType := info.displayType, sdmId := info.displayId }
              createVirtuals f rest clientId s

/-- `CreateVirtualDisplayObj(width, height, format, out_display_id)`: the status, the
final `*out_display_id` and the state. -/
def createVirtualDisplayObj (f : Factory) (hwDisplaysInfo : Option (List HwDisplayInfo))
    (outDisplayId : Nat) (s : State) : Hwc2Error × Nat × State :=
  if ¬s.clientConnected then (.badDisplay, outDisplayId, s)
  else
    match hwDisplaysInfo with
    | none => (.badDisplay, outDisplayId, s)
    | some infos =>
        match createVirtuals f infos outDisplayId s with
        | .error (out, s) => (.badDisplay, out, s)
        | .ok (out, s) => (.none, out, s)

/-- `CreateVirtualDisplay(width, height, format, out_display_id)`; `outDisplayId` is the
value the client left in `*out_display_id`, which is handled whatever the outcome. -/
def createVirtualDisplay (f : Factory) (hwDisplaysInfo : Option (List HwDisplayInfo))
    (width height outDisplayId : Nat) (s : State) : Hwc2Error × Nat × State :=
  if width = 0 ∨ height = 0 then (.badParameter, outDisplayId, s)
  else
    let (status, out, s) := createVirtualDisplayObj f hwDisplaysInfo outDisplayId s
    (status, out, handleConcurrency lim out s)

/-- `DestroyVirtualDisplay(display)`. -/
def destroyVirtualDisplay (display : Nat) (s : State) : Hwc2Error × State :=
  if lim.kNumDisplays ≤ display then (.badDisplay, s)
  else if display ∈ s.mapInfoVirtual then
    (.none, handleConcurrency lim display (destroyDisplay lim display (s.mapInfo display) s))
  else (.none, s)

/-- `UEventHandler` for a DRM hotplug uevent that carries a status or an MST flag, with the
`bpp=` and `pattern=` values `GetEventValue` read from it. -/
def hotplugEvent (f : Factory) (hwDisplaysInfo : Option (List HwDisplayInfo)) (bpp pattern : Int)
    (s : State) : Option State :=
  let s := { s with hpdBpp := bpp, hpdPattern := pattern }
  (createPluggableDisplays lim f hwDisplaysInfo s).map Prod.snd

/-! ## Runs -/

/-- One operation with its arguments and the environment's replies. -/
inductive Op where
  | registerCallback (descriptor : Callback) (pointer : Bool) (f : Factory)
      (hwDisplaysInfo : Option (List HwDisplayInfo))
  | presentDisplay (display now : Nat) (presentStatus : Hwc2Error) (f : Factory)
      (hwDisplaysInfo : Option (List HwDisplayInfo))
  | setPowerMode (display : Nat) (intMode : Int) (displayStatus : Hwc2Error)
  | setActiveConfig (display config : Nat)
  | createVirtualDisplay (width height outDisplayId : Nat) (f : Factory)
      (hwDisplaysInfo : Option (List HwDisplayInfo))
  | destroyVirtualDisplay (display : Nat)
  | hotplugEvent (bpp pattern : Int) (f : Factory) (hwDisplaysInfo : Option (List HwDisplayInfo))

/-- The state after one operation; `none` when it aborts the process. -/
def step : Op → State → Option State
  | .registerCallback d p f i, s => some (registerCallback lim f i d p s)
  | .presentDisplay d now st f i, s => (presentDisplay lim f i d now st s).map Prod.snd
  | .setPowerMode d m st, s => some (setPowerMode lim d m st s).2
  | .setActiveConfig d c, s => some (setActiveConfig lim d c s).2
  | .createVirtualDisplay w h o f i, s => some (createVirtualDisplay lim f i w h o s).2.2
  | .destroyVirtualDisplay d, s => some (destroyVirtualDisplay lim d s).2
  | .hotplugEvent b p f i, s => hotplugEvent lim f i b p s

/-- The operations of `ops`, in order, from `s`. -/
def run : List Op → State → Option State
  | [], s => some s
  | op :: ops, s => (step lim op s).bind (run ops)

/-- The states a run from a successful `Init` reaches. -/
inductive Reachable : State → Prop
  | init (r : HwReport) (f : Factory) (hwDisplaysInfo : Option (List HwDisplayInfo)) (s : State)
      (h : init lim r f hwDisplaysInfo = some s) : Reachable s
  | step (op : Op) {s t : State} (hs : Reachable s) (h : step lim op s = some t) : Reachable t

variable {lim}

theorem Reachable.run {s t : State} (hs : Reachable lim s) :
    ∀ {ops : List Op}, run lim ops s = some t → Reachable lim t
  | [], h => Option.some.inj h ▸ hs
  | op :: _, h => by
      obtain ⟨s', hs', h'⟩ := Option.bind_eq_some.1 h
      exact (Reachable.step op hs hs').run h'

/-- The state a run from a successful `Init` ends in is reachable. -/
theorem reachable_of_bind {r : HwReport} {f : Factory} {i : Option (List HwDisplayInfo)}
    {ops : List Op} {t : State} (h : (init lim r f i).bind (run lim ops) = some t) :
    Reachable lim t := by
  obtain ⟨s, hs, h'⟩ := Option.bind_eq_some.1 h
  exact (Reachable.init r f i s hs).run h'

end HwcSession.Session
