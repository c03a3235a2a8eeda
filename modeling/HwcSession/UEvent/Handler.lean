import HwcSession.UEvent.Parse

/-!
# `UEventHandler`

`UEventHandler` gets the buffer and the length `UEventThread` received. It tells the
uevents it handles apart by their first string, `ACTION@DEVPATH`, with `strcasestr`:

* a uevent of `/devices/virtual/graphics/fb0` carries `PANEL_ALIVE=`; when `GetEventValue`
  reads `0` there, the session refreshes the primary and marks the panel for a reset;
* a uevent of a DRM card carries `status=` or `MST_HOTPLUG=`; without either it is
  dropped, and with one the session stores the `bpp=` and `pattern=` values
  `GetEventValue` reads, rescans the pluggable displays, and, when the uevent has a
  `status=`, tells the client whether its value starts with `connected`.

The model returns what the handler goes on to do (`UEventAction`); the session's side of
a hotplug is `hotplugEvent`, given the two values. The two `DLOGI` calls print the first
string, which `strcasestr` has already read whole, and are left out.

## Main results

* `uEventHandler_ok_of_zeroPadded`: on a zero-padded buffer with a length that is not
  negative, no read of `UEventHandler` leaves the buffer.
* `ueventThreadRound_handler_in_bounds`: whatever message the kernel sends, `UEventHandler`
  reads only inside the buffer `UEventThread` hands it.
-/

namespace HwcSession.UEvent

/-- `HWC_UEVENT_GRAPHICS_FB0`. -/
def hwcUeventGraphicsFb0 : List UInt8 := ascii "change@/devices/virtual/graphics/fb0"

/-- `HWC_UEVENT_DRM_EXT_HOTPLUG`. -/
def hwcUeventDrmExtHotplug : List UInt8 := ascii "mdss_mdp/drm/card"

/-- `PANEL_ALIVE=`. -/
def panelAliveKey : CString := ⟨ascii "PANEL_ALIVE=", by decide⟩

/-- `status=`. -/
def statusKey : CString := ⟨ascii "status=", by decide⟩

/-- `MST_HOTPLUG=`. -/
def mstHotplugKey : CString := ⟨ascii "MST_HOTPLUG=", by decide⟩

/-- `pattern=`. -/
def patternKey : CString := ⟨ascii "pattern=", by decide⟩

/-- `"connected"`. -/
def connectedText : CString := ⟨ascii "connected", by decide⟩

/-- What `UEventHandler` goes on to do with a uevent. -/
inductive UEventAction where
  /-- Nothing. -/
  | ignore
  /-- `Refresh(0)` and `reset_panel_ = true`. -/
  | resetPanel
  /-- `hpd_bpp_ = bpp`, `hpd_pattern_ = pattern` and `CreatePluggableDisplays(true)`, then
  `onHdmiHotplug(connected)` when the uevent has a `status=`. -/
  | hotplug (bpp pattern : Int) (connected : Option Bool)
  deriving DecidableEq, Repr

/-- `HWCSession::UEventHandler`. -/
def uEventHandler (ueventData : List UInt8) (length : Int) : Except OutOfBuffer UEventAction :=
  strcasestr ueventData 0 hwcUeventGraphicsFb0 >>= fun fb0 =>
  if fb0.isSome then
    getEventValue ueventData length panelAliveKey >>= fun panelReset =>
    .ok (if panelReset = 0 then .resetPanel else .ignore)
  else
    strcasestr ueventData 0 hwcUeventDrmExtHotplug >>= fun drm =>
    if drm.isNone then .ok .ignore
    else
      getTokenValue ueventData length statusKey >>= fun strStatus =>
      getTokenValue ueventData length mstHotplugKey >>= fun strMst =>
      if strStatus.isNone && strMst.isNone then .ok .ignore
      else
        getEventValue ueventData length bppKey >>= fun hpdBpp =>
        getEventValue ueventData length patternKey >>= fun hpdPattern =>
        strStatus.mapM (fun i => strncmpEq (ueventData.drop i) i connectedText.bytes) >>=
          fun connected => .ok (.hotplug hpdBpp hpdPattern connected)

/-- With a NUL at index `length`, no read of `UEventHandler` faults: the `strcasestr` tests
read the first string, the parsers stay before the NUL, and so does the `strncmp` that
starts where `GetTokenValue` points. -/
theorem uEventHandler_ok_of_nul {ueventData : List UInt8} {z : Nat}
    (hz : ueventData[z]? = some 0) : ∃ a, uEventHandler ueventData z = .ok a := by
  obtain ⟨fb0, hfb0⟩ := strcasestr_ok (Nat.zero_le z) hz hwcUeventGraphicsFb0
  obtain ⟨drm, hdrm⟩ := strcasestr_ok (Nat.zero_le z) hz hwcUeventDrmExtHotplug
  obtain ⟨⟨panelReset, hpanel⟩, -⟩ := parsers_ok_of_nul hz panelAliveKey
  obtain ⟨⟨hpdBpp, hbpp⟩, -⟩ := parsers_ok_of_nul hz bppKey
  obtain ⟨⟨hpdPattern, hpattern⟩, -⟩ := parsers_ok_of_nul hz patternKey
  obtain ⟨strStatus, hstatus, hle⟩ := getTokenValue_ok_le hz statusKey
  obtain ⟨strMst, hmst, -⟩ := getTokenValue_ok_le hz mstHotplugKey
  have hconnected : ∃ c, strStatus.mapM
      (fun i => strncmpEq (ueventData.drop i) i connectedText.bytes) = .ok c := by
    cases strStatus with
    | none => exact ⟨none, rfl⟩
    | some i =>
      have hnul : 0 ∈ ueventData.drop i := List.getElem?_mem
        (by rwa [List.getElem?_drop, Nat.add_sub_cancel' (hle i rfl)])
      obtain ⟨c, hc⟩ := strncmpEq_ok i hnul connectedText.no_nul
      exact ⟨some c, by simp only [Option.mapM, hc, bind_ok]; rfl⟩
  obtain ⟨connected, hc⟩ := hconnected
  simp only [uEventHandler, hfb0, hdrm, hpanel, hbpp, hpattern, hstatus, hmst, hc, bind_ok]
  split_ifs <;> exact ⟨_, rfl⟩

/-- On a zero-padded buffer with a length that is not negative, no read of
`UEventHandler` faults. -/
theorem uEventHandler_ok_of_zeroPadded {r : Received} (h : r.ZeroPadded) (hnn : 0 ≤ r.length) :
    ∃ a, uEventHandler r.ueventData r.length = .ok a := by
  obtain ⟨z, hz⟩ := Int.eq_ofNat_of_zero_le hnn
  rw [hz]
  exact uEventHandler_ok_of_nul (h.nul hz)

/-- Whatever message the kernel sends, `UEventHandler` reads only inside the buffer
`UEventThread` hands it. -/
theorem ueventThreadRound_handler_in_bounds (msg : List UInt8) :
    ∃ a, uEventHandler (ueventThreadRound msg).ueventData (ueventThreadRound msg).length =
      .ok a :=
  uEventHandler_ok_of_zeroPadded (ueventThreadRound_zeroPadded msg) (Int.ofNat_nonneg _)

end HwcSession.UEvent
