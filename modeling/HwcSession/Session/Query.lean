import HwcSession.Session.Bounds
import HwcSession.Session.SlotTable

/-!
# Size queries and the display-object calls that bypass `CallDisplayFunction`

Three HWC2 entry points fill an array the caller owns: `Dump`, `GetDisplayCapabilities`
and `GetRenderIntents`. The caller calls each twice: first with a null array, to learn how
many entries to allocate, then with an array of that many entries, whose size it passes
in the same count out-parameter. A call `Honours` an array of `capacity` entries when it
writes at most that many and its count says how many it wrote. `Dump` copies up to
`max_dump_size` bytes whatever size the caller passes, and `GetDisplayCapabilities` writes
three capabilities for a builtin display whatever the size.

`GetDisplayCapabilities`, `GetDisplayBrightnessSupport` and `SetDisplayBrightness` read
`hwc_display_[display]` themselves, without `CallDisplayFunction` (`displayObjectCall`): at
an empty slot inside the table they answer `HWC2_ERROR_BAD_PARAMETER`, where
`CallDisplayFunction` answers `HWC2_ERROR_BAD_DISPLAY`.

These calls are straight-line code; an example after each shows the case its docstring
names.
-/

namespace HwcSession.Session

open HwcSession.Basic

/-- What a size query leaves: the value of its count out-parameter and the entries it
wrote into the caller's array, from index `0`. -/
structure Filled (α : Type) where
  count : Nat
  written : List α
  deriving DecidableEq, Repr

/-- The call writes at most `capacity` entries, and its count says how many it wrote. -/
def Filled.Honours {α : Type} (f : Filled α) (capacity : Nat) : Prop :=
  f.written.length ≤ capacity ∧ f.count = f.written.length

instance {α : Type} (f : Filled α) (capacity : Nat) : Decidable (f.Honours capacity) :=
  inferInstanceAs (Decidable (_ ∧ _))

/-- `HWC2_DISPLAY_CAPABILITY_*`, in the order `GetDisplayCapabilities` writes them. -/
inductive DisplayCapability where
  | skipClientColorTransform | doze | brightness
  deriving DecidableEq, Repr

/-- `RenderIntent`; `GetRenderIntents` only ever writes `COLORIMETRIC`. -/
inductive RenderIntent where
  | colorimetric
  deriving DecidableEq, Repr

/-- `HWC2_CAPABILITY_*`, in the order `GetCapabilities` writes them. -/
inductive Capability where
  | skipClientColorTransform | skipValidate
  deriving DecidableEq, Repr

/-- `HAL_COLOR_MODE_NATIVE`, the lowest `android_color_mode_t`. -/
def halColorModeNative : Int := 0
/-- `HAL_COLOR_MODE_DISPLAY_P3`, the highest `android_color_mode_t` `GetRenderIntents`
accepts. -/
def halColorModeDisplayP3 : Int := 9

/-- `max_dump_size`. -/
def maxDumpSize : Nat := 8192

variable (lim : Limits)

/-- `GetCapabilities(device, outCount, outCapabilities)`: `disableSkipValidate` is whether
the `DISABLE_SKIP_VALIDATE_PROP` property reads `1`, `countIn` is `*outCount` on entry and
`buffer` whether `outCapabilities` is non-null; `none` for a null `outCount`. -/
def getCapabilities (outCount disableSkipValidate : Bool) (countIn : Nat) (buffer : Bool) :
    Option (Filled Capability) :=
  if !outCount then none
  else
    let count := 1 + (if disableSkipValidate then 0 else 1)
    if buffer && count ≤ countIn then
      some ⟨count, .skipClientColorTransform ::
        (if disableSkipValidate then [] else [.skipValidate])⟩
    else some ⟨count, []⟩

/-- With room for one capability only, `GetCapabilities` writes none and still counts two. -/
example : getCapabilities true false 1 true = some ⟨2, []⟩ := by decide

/-- The text `Dump` gathers: `hwc_display_[id]->Dump()` of every occupied slot, in the order
of the ids; `dumpOf c` is what the display at `c` returns. -/
def dumpText (dumpOf : Nat → List Char) (s : State) : List Char :=
  (List.range lim.kNumDisplays).foldl (fun acc id => if s.occupied id then acc ++ dumpOf id else acc)
    []

/-- `Dump(device, out_size, out_buffer)`: `device` and `outSize` are whether the pointers are
non-null, `buffer` whether `out_buffer` is. `none` when it returns at once. The count is
`UINT32(copied)`, at most `max_dump_size`. -/
def dump (device outSize buffer : Bool) (dumpOf : Nat → List Char) (s : State) :
    Option (Filled Char) :=
  if !device || !outSize then none
  else if !buffer then some ⟨maxDumpSize, []⟩
  else
    let text := dumpText lim dumpOf s
    let copied := text.take (min text.length maxDumpSize)
    some ⟨copied.length, copied⟩

/-- The body `GetDisplayCapabilities`, `GetDisplayBrightnessSupport` and
`SetDisplayBrightness` share after their pointer checks (`pointersOk`): an id past the
table is `BAD_DISPLAY`, an empty slot `BAD_PARAMETER`, and otherwise `act` on
`hwc_display_[display]`. `unchanged` is what the out-parameters hold when the call
returns early. -/
def displayObjectCall {α : Type} (pointersOk : Bool) (display : Nat) (unchanged : α)
    (act : HwcDisplay → Hwc2Error × α) (s : State) : Hwc2Error × α :=
  if !pointersOk then (.badParameter, unchanged)
  else if lim.kNumDisplays ≤ display then (.badDisplay, unchanged)
  else
    match s.hwcDisplay display with
    | none => (.badParameter, unchanged)
    | some d => act d

/-- `GetDisplayCapabilities(device, display, outNumCapabilities, outCapabilities)`:
`numIn` is `*outNumCapabilities` on entry, `buffer` whether `outCapabilities` is
non-null. -/
def getDisplayCapabilities (device outNumCapabilities : Bool) (display numIn : Nat)
    (buffer : Bool) (s : State) : Hwc2Error × Filled DisplayCapability :=
  displayObjectCall lim (outNumCapabilities && device) display ⟨numIn, []⟩ (fun d =>
    let isBuiltin := d.displayClass = .builtIn
    if !buffer then (.none, ⟨if isBuiltin then 3 else 0, []⟩)
    else if isBuiltin then (.none, ⟨3, [.skipClientColorTransform, .doze, .brightness]⟩)
    else (.none, ⟨numIn, []⟩)) s

/-- The builtin primary of `bootState` writes three capabilities into an array of two. -/
example : getDisplayCapabilities lim4 true true hwcDisplayPrimary 2 true bootState =
      (.none, ⟨3, [.skipClientColorTransform, .doze, .brightness]⟩) ∧
    ¬(getDisplayCapabilities lim4 true true hwcDisplayPrimary 2 true bootState).2.Honours 2 := by
  decide

/-- `GetDisplayBrightnessSupport(device, display, outSupport)`: the value written to
`*outSupport`. -/
def getDisplayBrightnessSupport (device outSupport : Bool) (display : Nat) (s : State) :
    Hwc2Error × Option Bool :=
  displayObjectCall lim (device && outSupport) display none
    (fun d => (.none, some (d.displayClass = .builtIn))) s

/-- `SetDisplayBrightness(device, display, brightness)`; `setPanelBrightness d` is what the
display's `SetPanelBrightness(brightness)` returns. -/
def setDisplayBrightness (device : Bool) (display : Nat) (setPanelBrightness : HwcDisplay → Hwc2Error)
    (s : State) : Hwc2Error :=
  (displayObjectCall lim device display () (fun d => (setPanelBrightness d, ())) s).1

/-- `bootState`'s first pluggable slot is empty: the three calls say `BAD_PARAMETER`, and
`CallDisplayFunction` says `BAD_DISPLAY`. -/
example : (getDisplayCapabilities lim4 true true 1 0 false bootState).1 = .badParameter ∧
    (getDisplayBrightnessSupport lim4 true true 1 bootState).1 = .badParameter ∧
    setDisplayBrightness lim4 true 1 (fun _ => .none) bootState = .badParameter ∧
    callDisplayFunction lim4 true 1 (fun _ => .none) bootState = .ok .badDisplay :=
  ⟨by decide, by decide, by decide, rfl⟩

/-- `GetRenderIntents(device, display, int_mode, out_num_intents, int_out_intents)`:
`numIn` is `*out_num_intents` on entry, `buffer` whether `int_out_intents` is non-null. It
reads no display object. -/
def getRenderIntents (device outNumIntents : Bool) (display : Nat) (mode : Int) (numIn : Nat)
    (buffer : Bool) : Hwc2Error × Filled RenderIntent :=
  if !outNumIntents then (.badParameter, ⟨numIn, []⟩)
  else if !device || lim.kNumDisplays ≤ display then (.badDisplay, ⟨numIn, []⟩)
  else if mode < halColorModeNative || halColorModeDisplayP3 < mode then
    (.badParameter, ⟨numIn, []⟩)
  else if !buffer then (.none, ⟨1, []⟩)
  else if 0 < numIn then (.none, ⟨1, [.colorimetric]⟩)
  else (.none, ⟨numIn, []⟩)

/-- An array of two gets the one intent. -/
example : getRenderIntents lim4 true true hwcDisplayPrimary 0 2 true =
    (.none, ⟨1, [.colorimetric]⟩) := by
  decide

end HwcSession.Session
