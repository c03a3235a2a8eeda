import HwcSession.Session.Layout

/-!
# The slot table and the hardware

Three properties relate the slot table to the hardware and to the client: each
connected pluggable display holds exactly one slot, the client's view of which slots are
connected agrees with the table, and a free slot keeps no trace of a display. The scans
of `Hotplug.lean` break each of them.

* `rescan_duplicates_sdm_id`: a rescan that reports an already connected display again
  puts it in a second slot; `HandleConnectedDisplays` never looks at the sdm ids already
  in the table, although its slot loop says "Display is already connected".
* `failed_factory_skips_hotplug`: when a factory fails part-way through a scan,
  `HandleConnectedDisplays` returns before it announces the displays it already created,
  and no later scan announces them.
* `failed_factory_keeps_test_pattern`: `test_pattern` is set before the factory runs and
  is not reset when it fails.

What the disconnect scan does get right, with a builtin primary, is its own job:
`handleDisconnectedDisplays_occupied` says it empties exactly the pluggable slots whose sdm
id the snapshot no longer lists as connected.

The two creating scans that take the first free slot of a pool are stated whole:
`handleBuiltInDisplays_every_other_slot` says which builtin slot each builtin display of
the snapshot goes to (every other one), and `createVirtualDisplayObj_none_without_creating`
that `CreateVirtualDisplayObj` reports success when it has nothing to create.
-/

namespace HwcSession.Session

open HwcSession.Basic

/-! ## A device for concrete runs -/

/-- Four slots of each kind besides the primary. -/
def lim4 : Limits := ⟨4, 4, 4, 13, by decide⟩

/-- A builtin primary with one more builtin display, two pluggable and one virtual
display: the pools are pluggable `[1, 2]`, builtin `[3]` and virtual `[4]`. -/
def bootReport : HwReport := ⟨some .builtIn, some 2, some 2, some 1⟩

/-- The builtin primary (sdm id `0`) and a second builtin display (sdm id `1`). -/
def bootDisplays : List HwDisplayInfo := [⟨0, .builtIn, true, true⟩, ⟨1, .builtIn, false, true⟩]

/-- A connected pluggable display with sdm id `n`. -/
def pluggableAt (n : Int) : HwDisplayInfo := ⟨n, .pluggable, false, true⟩

/-- Every display has one 60 Hz config. -/
def factory60 : Factory := .allOk fun _ => [16666666]

/-- `Init`, the client's hotplug registration, and the primary's first present. -/
def bootOps (hwDisplaysInfo : List HwDisplayInfo) : List Op :=
  [.registerCallback .hotplug true factory60 (some bootDisplays),
   .presentDisplay 0 0 .none factory60 (some hwDisplaysInfo)]

/-- The state after `Init` and then `ops`. -/
def afterBoot (ops : List Op) : Option State :=
  (init lim4 bootReport factory60 (some bootDisplays)).bind (run lim4 ops)

/-- The state after `Init`, the hotplug registration and the primary's first present,
with no pluggable display connected. -/
def bootState : State := (afterBoot (bootOps bootDisplays)).get (by decide)

theorem reachable_bootState : Reachable lim4 bootState :=
  reachable_of_bind (Option.some_get _).symm

/-! ## One slot per display -/

/-- The sdm ids of the occupied pluggable slots are pairwise distinct. -/
def State.PluggableSdmIdsDistinct (s : State) : Prop :=
  ∀ c ∈ s.mapInfoPluggable, ∀ c' ∈ s.mapInfoPluggable, c ≠ c' → s.occupied c → s.occupied c' →
    (s.mapInfo c).sdmId ≠ (s.mapInfo c').sdmId

instance (s : State) : Decidable s.PluggableSdmIdsDistinct :=
  inferInstanceAs (Decidable (∀ c ∈ s.mapInfoPluggable, ∀ c' ∈ s.mapInfoPluggable, c ≠ c' →
    s.occupied c → s.occupied c' → (s.mapInfo c).sdmId ≠ (s.mapInfo c').sdmId))

/-- Boot with pluggable display `2` connected, then a scan of a snapshot that still lists
it: the scan returns `0`, and slots `1` and `2` both hold sdm id `2`. -/
theorem rescan_duplicates_sdm_id :
    (afterBoot (bootOps (bootDisplays ++ [pluggableAt 2]))).any (fun s => s.primaryReady &&
      (createPluggableDisplays lim4 factory60 (some (bootDisplays ++ [pluggableAt 2])) s).any
        (fun r => r.1 == 0 && !decide r.2.PluggableSdmIdsDistinct)) = true := by
  decide

/-! ## The client's view of the table -/

/-- The last `Hotplug` notification the client received for client id `c`. -/
def State.lastHotplug (s : State) (c : Nat) : Option Connection :=
  (s.hotplugs.find? (·.1 = c)).map (·.2)

/-- For every builtin and pluggable slot, the client's last notification is `Connected`
exactly when the slot holds a display. -/
def State.HotplugsAgree (s : State) : Prop :=
  ∀ c ∈ s.mapInfoBuiltin ++ s.mapInfoPluggable, s.lastHotplug c = some .connected ↔ s.occupied c

instance (s : State) : Decidable s.HotplugsAgree :=
  inferInstanceAs (Decidable (∀ c ∈ s.mapInfoBuiltin ++ s.mapInfoPluggable,
    s.lastHotplug c = some .connected ↔ s.occupied c))

/-- A uevent reporting pluggable displays `2` and `3` whose second factory call fails:
slot `1` holds display `2`, but the client never heard of it. -/
theorem failed_factory_skips_hotplug :
    (afterBoot (bootOps bootDisplays ++
      [.hotplugEvent 0 0 ⟨fun i => if i = 3 then 1 else 0, fun _ => 0, fun _ => [16666666]⟩
        (some (bootDisplays ++ [pluggableAt 2, pluggableAt 3]))])).any
      (fun s => s.hotplugRegistered && s.occupied 1 && s.lastHotplug 1 != some .connected &&
        !decide s.HotplugsAgree) = true := by
  decide

/-! ## Free slots -/

/-- Every slot of the three pools is occupied exactly when its `DisplayMapInfo` is set,
and a free slot has no test pattern. -/
def State.FreeSlotsReset (s : State) : Prop :=
  ∀ c ∈ s.mapInfoBuiltin ++ s.mapInfoPluggable ++ s.mapInfoVirtual,
    (s.occupied c ↔ (s.mapInfo c).sdmId ≠ -1 ∧ (s.mapInfo c).dispType ≠ .displayTypeMax) ∧
      (s.occupied c = false → (s.mapInfo c).testPattern = false)

instance (s : State) : Decidable s.FreeSlotsReset :=
  inferInstanceAs (Decidable (∀ c ∈ s.mapInfoBuiltin ++ s.mapInfoPluggable ++ s.mapInfoVirtual,
    (s.occupied c ↔ (s.mapInfo c).sdmId ≠ -1 ∧ (s.mapInfo c).dispType ≠ .displayTypeMax) ∧
      (s.occupied c = false → (s.mapInfo c).testPattern = false)))

/-- A uevent with `bpp=24` and `pattern=1` for pluggable display `2`, whose factory call
fails: slot `1` stays free with `test_pattern` set. -/
theorem failed_factory_keeps_test_pattern :
    (afterBoot (bootOps bootDisplays ++
      [.hotplugEvent 24 1 ⟨fun _ => 1, fun _ => 0, fun _ => [16666666]⟩
        (some (bootDisplays ++ [pluggableAt 2]))])).any
      (fun s => !s.occupied 1 && (s.mapInfo 1).testPattern && !decide s.FreeSlotsReset) =
        true := by
  decide

/-! ## The disconnect scan -/

section Disconnect

variable {lim : Limits} {s : State}

theorem destroyNonPluggableDisplay_occupied (c x : Nat) :
    (destroyNonPluggableDisplay c s).occupied x = (s.occupied x && !decide (x = c)) := by
  unfold destroyNonPluggableDisplay
  by_cases hx : x = c
  · subst hx
    split_ifs with h
    · simp
    · simpa using h
  · split_ifs <;> simp [State.setDisplay_occupied_of_ne _ _ _ hx, hx]

theorem destroyPluggableDisplay_occupied (hp : s.pluggableIsPrimary = false) (c x : Nat) :
    (destroyPluggableDisplay lim c s).occupied x = (s.occupied x && !decide (x = c)) := by
  unfold destroyPluggableDisplay
  dsimp only
  by_cases hx : x = c
  · subst hx
    split_ifs <;> simp_all
  · split_ifs <;> simp_all [State.setDisplay_occupied_of_ne _ _ _ hx]

/-- With a builtin primary `DestroyDisplay` empties the slot it is given, whatever its
`disp_type`, and no other. -/
theorem destroyDisplay_occupied (hp : s.pluggableIsPrimary = false) (c : Nat) (m : MapInfo)
    (x : Nat) : (destroyDisplay lim c m s).occupied x = (s.occupied x && !decide (x = c)) := by
  unfold destroyDisplay
  split
  · exact destroyPluggableDisplay_occupied hp c x
  · exact destroyNonPluggableDisplay_occupied c x

theorem destroyDisplay_mapInfo_of_ne {c x : Nat} (m : MapInfo) (hx : x ≠ c) :
    (destroyDisplay lim c m s).mapInfo x = s.mapInfo x := by
  unfold destroyDisplay destroyPluggableDisplay destroyNonPluggableDisplay
  split <;> (try dsimp only) <;> split_ifs <;> simp [Function.update_noteq hx]

theorem destroyDisplay_pluggableIsPrimary (c : Nat) (m : MapInfo) :
    (destroyDisplay lim c m s).pluggableIsPrimary = s.pluggableIsPrimary := by
  unfold destroyDisplay destroyPluggableDisplay destroyNonPluggableDisplay
  split <;> (try dsimp only) <;> split_ifs <;> simp

/-- The slot loop of `HandleDisconnectedDisplays` over the distinct slots `L`. -/
theorem disconnectLoop_occupied (infos : List HwDisplayInfo) :
    ∀ (L : List Nat) (u : State), u.pluggableIsPrimary = false → L.Nodup → ∀ x,
      (L.foldl (fun s clientId =>
        if disconnected infos (s.mapInfo clientId).sdmId then
          destroyDisplay lim clientId (s.mapInfo clientId) s
        else s) u).occupied x =
      (u.occupied x && !(decide (x ∈ L) && disconnected infos (u.mapInfo x).sdmId))
  | [], u, _, _, x => by simp
  | c :: rest, u, hp, hL, x => by
      obtain ⟨hc, hrest⟩ := List.nodup_cons.1 hL
      have ho : ∀ y, (if disconnected infos (u.mapInfo c).sdmId then
          destroyDisplay lim c (u.mapInfo c) u else u).occupied y =
          (u.occupied y && !(decide (y = c) && disconnected infos (u.mapInfo c).sdmId)) := by
        intro y
        split_ifs with hd <;> simp [destroyDisplay_occupied hp, hd]
      have hm : ∀ y, y ≠ c → (if disconnected infos (u.mapInfo c).sdmId then
          destroyDisplay lim c (u.mapInfo c) u else u).mapInfo y = u.mapInfo y := by
        intro y hy
        split_ifs
        exacts [destroyDisplay_mapInfo_of_ne _ hy, rfl]
      have hp' : (if disconnected infos (u.mapInfo c).sdmId then
          destroyDisplay lim c (u.mapInfo c) u else u).pluggableIsPrimary = false := by
        split_ifs
        exacts [(destroyDisplay_pluggableIsPrimary _ _).trans hp, hp]
      rw [List.foldl_cons, disconnectLoop_occupied infos rest _ hp' hrest x, ho]
      by_cases hx : x = c
      · subst hx
        simp [hc]
      · simp [hm x hx, hx]

theorem handleDisconnectedDisplays_occupied (h : Reachable lim s)
    (hp : s.pluggableIsPrimary = false) (infos : List HwDisplayInfo) (x : Nat) :
    (handleDisconnectedDisplays lim infos s).occupied x =
      (s.occupied x &&
        !(decide (x ∈ s.mapInfoPluggable) && disconnected infos (s.mapInfo x).sdmId)) := by
  obtain ⟨p, b, v, -, -, -, hpools⟩ := h.layout.consecutive
  have hnd : s.mapInfoPluggable.Nodup := by
    rw [show s.mapInfoPluggable = List.range' 1 p from congrArg (·.1) hpools]
    exact List.nodup_range' 1 p
  unfold handleDisconnectedDisplays
  simp only [hp, Bool.false_eq_true, false_and, if_false]
  exact disconnectLoop_occupied infos _ s hp hnd x

/-- Pluggable display `2` connected at boot. -/
def pluggableBootState : State :=
  (afterBoot (bootOps (bootDisplays ++ [pluggableAt 2]))).get (by decide)

/-- A snapshot that no longer lists display `2` empties slot `1`. -/
theorem handleDisconnectedDisplays_occupied_unplugged :
    Reachable lim4 pluggableBootState ∧ pluggableBootState.pluggableIsPrimary = false ∧
      (handleDisconnectedDisplays lim4 bootDisplays pluggableBootState).occupied 1 =
        (pluggableBootState.occupied 1 && !(decide (1 ∈ pluggableBootState.mapInfoPluggable) &&
          disconnected bootDisplays (pluggableBootState.mapInfo 1).sdmId)) :=
  ⟨reachable_of_bind (Option.some_get _).symm, by decide,
    handleDisconnectedDisplays_occupied (reachable_of_bind (Option.some_get _).symm) (by decide)
      bootDisplays 1⟩

end Disconnect

/-! ## The builtin scan

`HandleBuiltInDisplays` walks the snapshot with `client_id` as its index into
`map_info_builtin_`, and increments it twice for each display it creates. With every
`HWCDisplayBuiltIn::Create` succeeding, the scan places the `i`-th connected builtin
display of the snapshot (the primary apart) in builtin slot `2 * i`, and stops at the end
of the pool: it creates `min n ((m + 1) / 2)` displays for `n` such entries and `m` slots.
-/

section BuiltinScan

variable {f : Factory}

/-- The entries `HandleBuiltInDisplays` creates a display for, in the snapshot's order:
the connected builtin displays other than the primary. -/
def builtinEntries (infos : List HwDisplayInfo) : List HwDisplayInfo :=
  infos.filter fun info => ¬(info.isPrimary ∨ info.displayType ≠ .builtIn ∨ ¬info.isConnected)

/-- The elements of `l` at even positions, `l[0], l[2], …`. -/
def everyOther {α : Type} : List α → List α
  | [] => []
  | [a] => [a]
  | a :: _ :: rest => a :: everyOther rest

/-- Slot `c` receives the builtin display of entry `info`, as the loop body writes it. -/
def placeBuiltIn (f : Factory) (s : State) (slot : Nat × HwDisplayInfo) : State :=
  let s := s.setDisplay slot.1
    (some (.create .builtIn slot.2.displayId (f.vsyncPeriods slot.2.displayId)))
  s.setMapInfo slot.1
    { s.mapInfo slot.1 with dispType := slot.2.displayType, sdmId := slot.2.displayId }

theorem builtinEntries_cons (info : HwDisplayInfo) (rest : List HwDisplayInfo) :
    builtinEntries (info :: rest) =
      if info.isPrimary ∨ info.displayType ≠ .builtIn ∨ ¬info.isConnected then builtinEntries rest
      else info :: builtinEntries rest := by
  unfold builtinEntries
  split_ifs with h
  · exact List.filter_cons_of_neg (by rw [decide_eq_true_eq, not_not]; exact h)
  · exact List.filter_cons_of_pos (by rw [decide_eq_true_eq]; exact h)

theorem everyOther_length {α : Type} : ∀ l : List α, (everyOther l).length = (l.length + 1) / 2
  | [] | [_] => by simp [everyOther]
  | _ :: _ :: rest => by
      simp only [everyOther, List.length_cons, everyOther_length rest]
      omega

/-- The slots from index `k` on, every other one, start at slot `k`. -/
theorem everyOther_drop {pool : List Nat} {k c : Nat} (h : pool[k]? = some c) :
    everyOther (pool.drop k) = c :: everyOther (pool.drop (k + 1 + 1)) := by
  obtain ⟨hk, rfl⟩ := List.getElem?_eq_some_iff.1 h
  rw [List.drop_eq_getElem_cons hk, ← List.drop_drop 1 (k + 1)]
  cases pool.drop (k + 1) <;> rfl

/-- With every factory call succeeding, the loop from index `k` places the entries it
creates displays for in every other slot of the pool from `k` on. -/
theorem createBuiltIns_eq (hf : ∀ id, f.status id = 0) (pool : List Nat) :
    ∀ (k : Nat) (infos : List HwDisplayInfo) (s : State),
      createBuiltIns f pool k infos s =
        ((everyOther (pool.drop k)).zip (builtinEntries infos)).foldl (placeBuiltIn f) s
  | _, [], s => by simp [createBuiltIns, builtinEntries]
  | k, info :: rest, s => by
      unfold createBuiltIns
      by_cases hskip : info.isPrimary ∨ info.displayType ≠ .builtIn ∨ ¬info.isConnected
      · rw [if_pos hskip, builtinEntries_cons, if_pos hskip]
        exact createBuiltIns_eq hf pool k rest s
      · rw [if_neg hskip, builtinEntries_cons, if_neg hskip]
        cases hc : pool[k]? with
        | none => simp [List.drop_eq_nil_of_le (List.getElem?_eq_none_iff.1 hc), everyOther]
        | some c =>
            simp only [hf, ne_eq, not_true_eq_false, if_false]
            rw [everyOther_drop hc, List.zip_cons_cons, List.foldl_cons,
              createBuiltIns_eq hf pool (k + 1 + 1) rest]
            rfl

theorem handleBuiltInDisplays_every_other_slot (hf : ∀ id, f.status id = 0)
    (infos : List HwDisplayInfo) (s : State) :
    handleBuiltInDisplays f (some infos) s =
      ((everyOther s.mapInfoBuiltin).zip (builtinEntries infos)).foldl (placeBuiltIn f) s :=
  createBuiltIns_eq hf _ 0 infos s

/-- A builtin primary with two more builtin displays: the pools are pluggable `[1, 2]`,
builtin `[3, 4]` and virtual `[5]`. -/
def twoBuiltinsReport : HwReport := ⟨some .builtIn, some 3, some 2, some 1⟩

/-- The builtin primary (sdm id `0`) and two more builtin displays (sdm ids `1` and `2`). -/
def twoBuiltins : List HwDisplayInfo :=
  [⟨0, .builtIn, true, true⟩, ⟨1, .builtIn, false, true⟩, ⟨2, .builtIn, false, true⟩]

/-- The session after `Init` with `twoBuiltinsReport`. -/
def twoBuiltinsInit : State :=
  (init lim4 twoBuiltinsReport factory60 (some twoBuiltins)).get (by decide)

/-- Two builtin displays and two builtin slots: display `1` goes to slot `3`, and display
`2` is never created, since the index has passed the end of the pool. -/
theorem handleBuiltInDisplays_every_other_slot_two_builtins :
    twoBuiltinsInit.mapInfoBuiltin = [3, 4] ∧ (∀ id, factory60.status id = 0) ∧
      handleBuiltInDisplays factory60 (some twoBuiltins) twoBuiltinsInit =
        placeBuiltIn factory60 twoBuiltinsInit (3, ⟨1, .builtIn, false, true⟩) :=
  ⟨by decide, fun _ => rfl,
    (handleBuiltInDisplays_every_other_slot (fun _ => rfl) _ _).trans rfl⟩

end BuiltinScan

/-! ## Creating a virtual display

`CreateVirtualDisplayObj` returns `HWC2::Error::None` once its loop is done, whatever the
loop did: the `status` it keeps is never looked at again. The documented
`HWC2::Error::NoResources` is never returned.
-/

section VirtualCreation

variable {f : Factory} {s : State}

/-- With every virtual slot occupied, the loop of `CreateVirtualDisplayObj` skips every
entry. -/
theorem createVirtuals_of_full (f : Factory) (hfull : ∀ c ∈ s.mapInfoVirtual, s.occupied c = true) :
    ∀ (infos : List HwDisplayInfo) (out : Nat), createVirtuals f infos out s = .ok (out, s)
  | [], _ => rfl
  | info :: rest, out => by
      have hnone : firstFreeSlot s.mapInfoVirtual s = none :=
        List.find?_eq_none.2 fun c hc => by simp [hfull c hc]
      by_cases hv : info.displayType ≠ .virtual
      · rw [createVirtuals, if_pos hv]
        exact createVirtuals_of_full f hfull rest out
      · rw [createVirtuals, if_neg hv, hnone]
        exact createVirtuals_of_full f hfull rest out

theorem createVirtualDisplayObj_none_without_creating (hc : s.clientConnected = true)
    (infos : List HwDisplayInfo)
    (h : (∀ c ∈ s.mapInfoVirtual, s.occupied c = true) ∨ ∀ info ∈ infos, info.displayType ≠ .virtual)
    (out : Nat) : createVirtualDisplayObj f (some infos) out s = (.none, out, s) := by
  have hloop : createVirtuals f infos out s = .ok (out, s) :=
    h.elim (fun hfull => createVirtuals_of_full f hfull infos out)
      (createVirtuals_of_forall_ne f infos out s)
  simp only [createVirtualDisplayObj, hc, not_true_eq_false, if_false, hloop]

/-- After boot the client is connected, and a snapshot that lists no virtual display makes
`CreateVirtualDisplayObj` report success and leave the session as it was. -/
theorem createVirtualDisplayObj_none_without_creating_boot :
    bootState.clientConnected = true ∧
      ((∀ c ∈ bootState.mapInfoVirtual, bootState.occupied c = true) ∨
        ∀ info ∈ bootDisplays, info.displayType ≠ .virtual) ∧
      createVirtualDisplayObj factory60 (some bootDisplays) 7 bootState = (.none, 7, bootState) :=
  ⟨by decide, .inr (by decide),
    createVirtualDisplayObj_none_without_creating (by decide) bootDisplays (.inr (by decide)) 7⟩

/-- A builtin primary with one more builtin display, two pluggable and two virtual slots:
the virtual pool is `[4, 5]`. -/
def twoVirtualsReport : HwReport := ⟨some .builtIn, some 2, some 2, some 2⟩

/-- The session of `twoVirtualsReport` after the client's hotplug registration. -/
def twoVirtualsState : State :=
  ((init lim4 twoVirtualsReport factory60 (some bootDisplays)).bind
    (run lim4 [.registerCallback .hotplug true factory60 (some bootDisplays)])).get (by decide)

/-- A snapshot with two virtual displays whose second factory call fails: the call returns
`BadDisplay`, yet slot `4` now holds the first one. -/
theorem createVirtualDisplayObj_error_keeps_first :
    let r := createVirtualDisplayObj ⟨fun id => if id = 6 then 1 else 0, fun _ => 0,
      fun _ => [16666666]⟩ (some [⟨5, .virtual, false, true⟩, ⟨6, .virtual, false, true⟩]) 0
      twoVirtualsState
    r.1 = .badDisplay ∧ twoVirtualsState.occupied 4 = false ∧ r.2.2.occupied 4 = true := by
  decide

end VirtualCreation

end HwcSession.Session
