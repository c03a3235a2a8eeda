import HwcSession.PowerHint.Worker

/-!
# The session's display table and slot pools

`HWCSession` keeps one display object per client id in `hwc_display_`, and one
`DisplayMapInfo` per slot in four pools: the primary slot, and the builtin, pluggable
and virtual pools that `InitSupportedDisplaySlots` lays out with consecutive client ids.
A slot's `client_id` never changes after that (`Reset` keeps it), and no two slots share
one, so `State` keeps each pool as the list of its client ids, in the vector's order,
and the other members of every `DisplayMapInfo` in one table indexed by client id.

The display objects themselves are not part of these sources. A `HwcDisplay` keeps what
the session reads of one: the factory that made it, its sdm id, its last power mode,
whether the last `ActivateDisplay` enabled it, and its configuration table.
-/

namespace HwcSession.Session

open HwcSession.Basic HwcSession.PowerHint

/-- The members of `DisplayMapInfo` besides `client_id`, with their default values. -/
structure MapInfo where
  sdmId : Int := -1
  dispType : DisplayType := .displayTypeMax
  testPattern : Bool := false
  deriving DecidableEq, Repr

/-- `DisplayMapInfo::Reset()`, which is also the value of a slot never filled. -/
def MapInfo.reset : MapInfo := {}

/-- One entry of `HWDisplaysInfo`, the hardware snapshot `GetDisplaysStatus` reports. -/
structure HwDisplayInfo where
  displayId : Int
  displayType : DisplayType
  isPrimary : Bool
  isConnected : Bool
  deriving DecidableEq, Repr

/-- The factory that created a display object: `HWCDisplayBuiltIn`, `HWCDisplayPluggable`,
`HWCDisplayPluggableTest`, `HWCDisplayVirtual` or `HWCDisplayDummy`. -/
inductive DisplayClass where
  | builtIn | pluggable | pluggableTest | virtual | dummy
  deriving DecidableEq, Repr

/-- What the session reads of one display object; `vsyncPeriods` is its configuration
table, one vsync period (ns) per config. -/
structure HwcDisplay where
  displayClass : DisplayClass
  sdmId : Int
  lastPowerMode : PowerMode
  active : Bool
  vsyncPeriods : List Nat
  activeConfig : Nat
  deriving DecidableEq, Repr

/-- Modelled from the spec: the display classes are not part of these sources. A new
object has had no `ActivateDisplay` call, is `Off` until its first `SetPowerMode`, and
starts in config `0`. -/
def HwcDisplay.create (displayClass : DisplayClass) (sdmId : Int) (vsyncPeriods : List Nat) :
    HwcDisplay :=
  ⟨displayClass, sdmId, .off, true, vsyncPeriods, 0⟩

/-- The replies of the display factories and of `SetState` during one operation, by sdm
id: a status (`0` for success) and the configuration table of a display created. -/
structure Factory where
  status : Int → Int
  stateStatus : Int → Int
  vsyncPeriods : Int → List Nat

/-- A factory whose every call succeeds, with the configuration tables `vsyncPeriods`. -/
def Factory.allOk (vsyncPeriods : Int → List Nat) : Factory :=
  ⟨fun _ => 0, fun _ => 0, vsyncPeriods⟩

/-- The members of `HWCSession` the slot logic reads and writes. `mapInfoBuiltin`,
`mapInfoPluggable` and `mapInfoVirtual` are the client ids of `map_info_builtin_`,
`map_info_pluggable_` and `map_info_virtual_`; `mapInfo` holds the rest of each slot's
`DisplayMapInfo`, the primary's at client id `0`. `hotplugs` are the `Hotplug`
notifications the client received, and `refreshes` the `Refresh` calls the slot logic made
(those of the hotplug scans and of `DestroyPluggableDisplay`), newest first. -/
structure State where
  hwcDisplay : Nat → Option HwcDisplay
  mapInfo : Nat → MapInfo
  mapInfoBuiltin : List Nat
  mapInfoPluggable : List Nat
  mapInfoVirtual : List Nat
  primaryReady : Bool
  clientConnected : Bool
  pluggableIsPrimary : Bool
  nullDisplayActive : Bool
  hpdBpp : Int
  hpdPattern : Int
  hotplugRegistered : Bool
  hotplugs : List (Nat × Connection)
  refreshes : List Nat
  powerHalHint : PowerHalHintWorker

/-- The session before `Init`'s slot layout. -/
def State.empty (pools : List Nat × List Nat × List Nat) : State where
  hwcDisplay := fun _ => none
  mapInfo := fun _ => {}
  mapInfoBuiltin := pools.2.1
  mapInfoPluggable := pools.1
  mapInfoVirtual := pools.2.2
  primaryReady := false
  clientConnected := false
  pluggableIsPrimary := false
  nullDisplayActive := false
  hpdBpp := 0
  hpdPattern := 0
  hotplugRegistered := false
  hotplugs := []
  refreshes := []
  powerHalHint := .init

namespace State

variable (s : State)

/-- Client id `c` holds a display object. -/
def occupied (c : Nat) : Bool := (s.hwcDisplay c).isSome

/-- The display at `c` exists and the last `ActivateDisplay` on it, if any, enabled it. -/
def displayActive (c : Nat) : Bool :=
  match s.hwcDisplay c with
  | some d => d.active
  | none => false

/-- The display at `c` exists and its last power mode is not `Off`. -/
def poweredOn (c : Nat) : Bool :=
  match s.hwcDisplay c with
  | some d => d.lastPowerMode ≠ .off
  | none => false

/-- `GetDisplayIndex(dpy)`: the client id of the primary slot or of the first slot of a
pool, `-1` for an empty pool or an unknown `dpy`. -/
def getDisplayIndex (dpy : Int) : Int :=
  let first : List Nat → Int := fun pool => (pool.head?.map Int.ofNat).getD (-1)
  if dpy = displayPrimary then 0
  else if dpy = displayExternal then first s.mapInfoPluggable
  else if dpy = displayVirtual then first s.mapInfoVirtual
  else if dpy = displayBuiltin2 then first s.mapInfoBuiltin
  else -1

theorem getDisplayIndex_external :
    s.getDisplayIndex displayExternal = (s.mapInfoPluggable.head?.map Int.ofNat).getD (-1) := rfl

theorem getDisplayIndex_virtual :
    s.getDisplayIndex displayVirtual = (s.mapInfoVirtual.head?.map Int.ofNat).getD (-1) := rfl

/-- `(hwc2_display_t)GetDisplayIndex(DISPLAY_EXTERNAL)`. -/
def extDispIdx : Nat := toDisplayId (s.getDisplayIndex displayExternal)

/-- `(hwc2_display_t)GetDisplayIndex(DISPLAY_VIRTUAL)`. -/
def virDispIdx : Nat := toDisplayId (s.getDisplayIndex displayVirtual)

/-- `GetNextBuiltinIndex()`: the first builtin slot that holds a display, `0` if none. -/
def getNextBuiltinIndex : Nat := (s.mapInfoBuiltin.find? s.occupied).getD 0

/-- `GetSecondBuiltinStatus()`. -/
def getSecondBuiltinStatus : Bool :=
  s.getNextBuiltinIndex ≠ 0 && s.poweredOn s.getNextBuiltinIndex

/-- `hwc_display_[c] = d`. -/
def setDisplay (c : Nat) (d : Option HwcDisplay) : State :=
  { s with hwcDisplay := Function.update s.hwcDisplay c d }

/-- The `DisplayMapInfo` of client id `c` becomes `m`. -/
def setMapInfo (c : Nat) (m : MapInfo) : State :=
  { s with mapInfo := Function.update s.mapInfo c m }

/-- `ActivateDisplay(disp, enable)`: nothing happens at an empty slot. -/
def activateDisplay (disp : Nat) (enable : Bool) : State :=
  s.setDisplay disp ((s.hwcDisplay disp).map ({ · with active := enable }))

/-- Modelled from the spec: `callbacks_.Hotplug(disp, state)` reaches the client only
while a hotplug callback is registered. -/
def hotplug (disp : Nat) (state : Connection) : State :=
  if s.hotplugRegistered then { s with hotplugs := (disp, state) :: s.hotplugs } else s

/-- Modelled from the spec: `Refresh` retries under `callbacks_lock_` until the client's
refresh callback takes it. `Refresh(disp)`. -/
def refresh (disp : Nat) : State := { s with refreshes := disp :: s.refreshes }

/-- The client ids of the pluggable, builtin and virtual pools, in the order
`InitSupportedDisplaySlots` lays them out. -/
def pools : List Nat × List Nat × List Nat :=
  (s.mapInfoPluggable, s.mapInfoBuiltin, s.mapInfoVirtual)

/-! ## What the table updates leave alone -/

variable (c : Nat) (d : Option HwcDisplay) (m : MapInfo) (e : Bool)

@[simp] theorem setDisplay_hwcDisplay :
    (s.setDisplay c d).hwcDisplay = Function.update s.hwcDisplay c d := rfl
@[simp] theorem setDisplay_mapInfo : (s.setDisplay c d).mapInfo = s.mapInfo := rfl
@[simp] theorem setDisplay_mapInfoBuiltin :
    (s.setDisplay c d).mapInfoBuiltin = s.mapInfoBuiltin := rfl
@[simp] theorem setDisplay_mapInfoPluggable :
    (s.setDisplay c d).mapInfoPluggable = s.mapInfoPluggable := rfl
@[simp] theorem setDisplay_mapInfoVirtual :
    (s.setDisplay c d).mapInfoVirtual = s.mapInfoVirtual := rfl
@[simp] theorem setDisplay_primaryReady : (s.setDisplay c d).primaryReady = s.primaryReady := rfl
@[simp] theorem setDisplay_pluggableIsPrimary :
    (s.setDisplay c d).pluggableIsPrimary = s.pluggableIsPrimary := rfl
@[simp] theorem setDisplay_clientConnected :
    (s.setDisplay c d).clientConnected = s.clientConnected := rfl
@[simp] theorem setDisplay_powerHalHint : (s.setDisplay c d).powerHalHint = s.powerHalHint := rfl

@[simp] theorem setDisplay_refreshes : (s.setDisplay c d).refreshes = s.refreshes := rfl
@[simp] theorem setDisplay_pools : (s.setDisplay c d).pools = s.pools := rfl

theorem setDisplay_hwcDisplay_of_ne {x : Nat} (h : x ≠ c) :
    (s.setDisplay c d).hwcDisplay x = s.hwcDisplay x := Function.update_noteq h _ _

@[simp] theorem setDisplay_occupied_self : (s.setDisplay c d).occupied c = d.isSome := by
  simp [occupied]

@[simp] theorem setDisplay_displayActive_self :
    (s.setDisplay c d).displayActive c = (d.map (·.active)).getD false := by
  cases d <;> simp [displayActive]

@[simp] theorem setDisplay_poweredOn_self :
    (s.setDisplay c d).poweredOn c = (d.map (·.lastPowerMode ≠ .off)).getD false := by
  cases d <;> simp [poweredOn]

theorem setDisplay_occupied_of_ne {x : Nat} (h : x ≠ c) :
    (s.setDisplay c d).occupied x = s.occupied x := by
  simp only [occupied, setDisplay_hwcDisplay_of_ne s c d h]

theorem setDisplay_displayActive_of_ne {x : Nat} (h : x ≠ c) :
    (s.setDisplay c d).displayActive x = s.displayActive x := by
  simp only [displayActive, setDisplay_hwcDisplay_of_ne s c d h]

theorem setDisplay_poweredOn_of_ne {x : Nat} (h : x ≠ c) :
    (s.setDisplay c d).poweredOn x = s.poweredOn x := by
  simp only [poweredOn, setDisplay_hwcDisplay_of_ne s c d h]

/-- Replacing the display of an occupied slot keeps the slot occupied. -/
theorem setDisplay_occupied_of_some {d₀ : HwcDisplay} (hd : s.hwcDisplay c = some d₀)
    (d₁ : HwcDisplay) : (s.setDisplay c (some d₁)).occupied = s.occupied := by
  funext x
  by_cases hx : x = c
  · subst hx; simp [occupied, hd]
  · exact setDisplay_occupied_of_ne s c _ hx

theorem setDisplay_displayActive_of_some {d₀ : HwcDisplay} (hd : s.hwcDisplay c = some d₀)
    (d₁ : HwcDisplay) (ha : d₁.active = d₀.active) :
    (s.setDisplay c (some d₁)).displayActive = s.displayActive := by
  funext x
  by_cases hx : x = c
  · subst hx; simp [displayActive, hd, ha]
  · exact setDisplay_displayActive_of_ne s c _ hx

theorem setDisplay_poweredOn_of_some {d₀ : HwcDisplay} (hd : s.hwcDisplay c = some d₀)
    (d₁ : HwcDisplay) (hm : d₁.lastPowerMode = d₀.lastPowerMode) :
    (s.setDisplay c (some d₁)).poweredOn = s.poweredOn := by
  funext x
  by_cases hx : x = c
  · subst hx; simp [poweredOn, hd, hm]
  · exact setDisplay_poweredOn_of_ne s c _ hx

@[simp] theorem setMapInfo_hwcDisplay : (s.setMapInfo c m).hwcDisplay = s.hwcDisplay := rfl
@[simp] theorem setMapInfo_mapInfo :
    (s.setMapInfo c m).mapInfo = Function.update s.mapInfo c m := rfl
@[simp] theorem setMapInfo_mapInfoBuiltin :
    (s.setMapInfo c m).mapInfoBuiltin = s.mapInfoBuiltin := rfl
@[simp] theorem setMapInfo_mapInfoPluggable :
    (s.setMapInfo c m).mapInfoPluggable = s.mapInfoPluggable := rfl
@[simp] theorem setMapInfo_mapInfoVirtual :
    (s.setMapInfo c m).mapInfoVirtual = s.mapInfoVirtual := rfl
@[simp] theorem setMapInfo_primaryReady : (s.setMapInfo c m).primaryReady = s.primaryReady := rfl
@[simp] theorem setMapInfo_pluggableIsPrimary :
    (s.setMapInfo c m).pluggableIsPrimary = s.pluggableIsPrimary := rfl
@[simp] theorem setMapInfo_clientConnected :
    (s.setMapInfo c m).clientConnected = s.clientConnected := rfl

@[simp] theorem setMapInfo_powerHalHint : (s.setMapInfo c m).powerHalHint = s.powerHalHint := rfl
@[simp] theorem setMapInfo_pools : (s.setMapInfo c m).pools = s.pools := rfl
@[simp] theorem setMapInfo_refreshes : (s.setMapInfo c m).refreshes = s.refreshes := rfl
@[simp] theorem setMapInfo_occupied : (s.setMapInfo c m).occupied = s.occupied := rfl
@[simp] theorem setMapInfo_poweredOn : (s.setMapInfo c m).poweredOn = s.poweredOn := rfl
@[simp] theorem setMapInfo_displayActive : (s.setMapInfo c m).displayActive = s.displayActive := rfl
@[simp] theorem setMapInfo_getSecondBuiltinStatus :
    (s.setMapInfo c m).getSecondBuiltinStatus = s.getSecondBuiltinStatus := rfl
@[simp] theorem setMapInfo_extDispIdx : (s.setMapInfo c m).extDispIdx = s.extDispIdx := rfl
@[simp] theorem setMapInfo_virDispIdx : (s.setMapInfo c m).virDispIdx = s.virDispIdx := rfl
@[simp] theorem setDisplay_extDispIdx : (s.setDisplay c d).extDispIdx = s.extDispIdx := rfl
@[simp] theorem setDisplay_virDispIdx : (s.setDisplay c d).virDispIdx = s.virDispIdx := rfl

variable (conn : Connection)

@[simp] theorem hotplug_hwcDisplay : (s.hotplug c conn).hwcDisplay = s.hwcDisplay := by
  unfold hotplug; split <;> rfl
@[simp] theorem hotplug_mapInfo : (s.hotplug c conn).mapInfo = s.mapInfo := by
  unfold hotplug; split <;> rfl
@[simp] theorem hotplug_mapInfoBuiltin : (s.hotplug c conn).mapInfoBuiltin = s.mapInfoBuiltin := by
  unfold hotplug; split <;> rfl
@[simp] theorem hotplug_mapInfoPluggable :
    (s.hotplug c conn).mapInfoPluggable = s.mapInfoPluggable := by
  unfold hotplug; split <;> rfl
@[simp] theorem hotplug_mapInfoVirtual : (s.hotplug c conn).mapInfoVirtual = s.mapInfoVirtual := by
  unfold hotplug; split <;> rfl
@[simp] theorem hotplug_primaryReady : (s.hotplug c conn).primaryReady = s.primaryReady := by
  unfold hotplug; split <;> rfl
@[simp] theorem hotplug_pluggableIsPrimary :
    (s.hotplug c conn).pluggableIsPrimary = s.pluggableIsPrimary := by
  unfold hotplug; split <;> rfl
@[simp] theorem hotplug_clientConnected :
    (s.hotplug c conn).clientConnected = s.clientConnected := by
  unfold hotplug; split <;> rfl
@[simp] theorem hotplug_powerHalHint : (s.hotplug c conn).powerHalHint = s.powerHalHint := by
  unfold hotplug; split <;> rfl

@[simp] theorem hotplug_refreshes : (s.hotplug c conn).refreshes = s.refreshes := by
  unfold hotplug; split <;> rfl

@[simp] theorem hotplug_pools : (s.hotplug c conn).pools = s.pools := by simp [pools]
@[simp] theorem hotplug_occupied : (s.hotplug c conn).occupied = s.occupied := by
  unfold hotplug; split <;> rfl
@[simp] theorem hotplug_poweredOn : (s.hotplug c conn).poweredOn = s.poweredOn := by
  unfold hotplug; split <;> rfl
@[simp] theorem hotplug_displayActive : (s.hotplug c conn).displayActive = s.displayActive := by
  unfold hotplug; split <;> rfl

@[simp] theorem refresh_hwcDisplay : (s.refresh c).hwcDisplay = s.hwcDisplay := rfl
@[simp] theorem refresh_mapInfo : (s.refresh c).mapInfo = s.mapInfo := rfl
@[simp] theorem refresh_mapInfoBuiltin : (s.refresh c).mapInfoBuiltin = s.mapInfoBuiltin := rfl
@[simp] theorem refresh_mapInfoPluggable : (s.refresh c).mapInfoPluggable = s.mapInfoPluggable :=
  rfl
@[simp] theorem refresh_mapInfoVirtual : (s.refresh c).mapInfoVirtual = s.mapInfoVirtual := rfl
@[simp] theorem refresh_primaryReady : (s.refresh c).primaryReady = s.primaryReady := rfl
@[simp] theorem refresh_pluggableIsPrimary :
    (s.refresh c).pluggableIsPrimary = s.pluggableIsPrimary := rfl
@[simp] theorem refresh_clientConnected : (s.refresh c).clientConnected = s.clientConnected := rfl
@[simp] theorem refresh_nullDisplayActive :
    (s.refresh c).nullDisplayActive = s.nullDisplayActive := rfl
@[simp] theorem refresh_hotplugRegistered :
    (s.refresh c).hotplugRegistered = s.hotplugRegistered := rfl
@[simp] theorem refresh_hotplugs : (s.refresh c).hotplugs = s.hotplugs := rfl
@[simp] theorem refresh_hpdBpp : (s.refresh c).hpdBpp = s.hpdBpp := rfl
@[simp] theorem refresh_hpdPattern : (s.refresh c).hpdPattern = s.hpdPattern := rfl
@[simp] theorem refresh_refreshes : (s.refresh c).refreshes = c :: s.refreshes := rfl
@[simp] theorem refresh_powerHalHint : (s.refresh c).powerHalHint = s.powerHalHint := rfl
@[simp] theorem refresh_pools : (s.refresh c).pools = s.pools := rfl
@[simp] theorem refresh_occupied : (s.refresh c).occupied = s.occupied := rfl
@[simp] theorem refresh_poweredOn : (s.refresh c).poweredOn = s.poweredOn := rfl
@[simp] theorem refresh_displayActive : (s.refresh c).displayActive = s.displayActive := rfl

/-- The pools decide `GetDisplayIndex`. -/
theorem getDisplayIndex_congr {t : State} (hb : t.mapInfoBuiltin = s.mapInfoBuiltin)
    (hp : t.mapInfoPluggable = s.mapInfoPluggable) (hv : t.mapInfoVirtual = s.mapInfoVirtual)
    (dpy : Int) : t.getDisplayIndex dpy = s.getDisplayIndex dpy := by
  simp only [getDisplayIndex, hb, hp, hv]

@[simp] theorem activateDisplay_occupied : (s.activateDisplay c e).occupied = s.occupied := by
  funext c'
  by_cases h : c' = c
  · subst h; simp [activateDisplay, occupied]
  · simp [activateDisplay, occupied, Function.update_noteq h]

@[simp] theorem activateDisplay_poweredOn : (s.activateDisplay c e).poweredOn = s.poweredOn := by
  funext c'
  by_cases h : c' = c
  · subst h; cases hd : s.hwcDisplay c' <;> simp [activateDisplay, poweredOn, hd]
  · simp [activateDisplay, poweredOn, Function.update_noteq h]

theorem activateDisplay_displayActive (c' : Nat) :
    (s.activateDisplay c e).displayActive c' =
      if c' = c then s.occupied c && e else s.displayActive c' := by
  by_cases h : c' = c
  · subst h; cases hd : s.hwcDisplay c' <;> simp [activateDisplay, displayActive, occupied, hd]
  · simp [activateDisplay, displayActive, Function.update_noteq h, h]

@[simp] theorem activateDisplay_getNextBuiltinIndex :
    (s.activateDisplay c e).getNextBuiltinIndex = s.getNextBuiltinIndex := by
  simp only [getNextBuiltinIndex, activateDisplay_occupied]
  rfl

@[simp] theorem activateDisplay_getSecondBuiltinStatus :
    (s.activateDisplay c e).getSecondBuiltinStatus = s.getSecondBuiltinStatus := by
  simp [getSecondBuiltinStatus]

end State

end HwcSession.Session
