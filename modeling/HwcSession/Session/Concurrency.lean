import HwcSession.Session.State

/-!
# `HandleConcurrency`

After a display changes (a power mode, a connection, a virtual display created or
destroyed) the session re-evaluates which of the second builtin display, the first
pluggable slot and the first virtual slot may be active together. `handleConcurrency`
does nothing before the primary has presented its first frame.

Whatever it decides, `handleConcurrency` only calls `ActivateDisplay`: it changes which
displays are active and nothing else (`handleConcurrency_occupied`,
`handleConcurrency_poweredOn`), and it enables a display only when the second builtin is
inactive (`handleConcurrency_displayActive`).
-/

namespace HwcSession.Session

open HwcSession.Basic

variable (lim : Limits)

namespace State

variable (s : State)

/-- `idx < HWCCallbacks::kNumDisplays && hwc_display_[idx]`: the client id is in the table
and its slot holds a display. -/
def present (idx : Nat) : Bool := decide (idx < lim.kNumDisplays) && s.occupied idx

/-- `ext_disp_present`: the first pluggable slot is present. -/
def extDispPresent : Bool := s.present lim s.extDispIdx

/-- `vir_disp_present`: the first virtual slot is present. -/
def virDispPresent : Bool := s.present lim s.virDispIdx

end State

/-- `NonBuiltinConcurrency(disp, builtin_active)`: a pluggable or virtual display that
changed is deactivated while the second builtin or the other category is there; one that
went away lets the other category become active. -/
def nonBuiltinConcurrency (disp : Nat) (builtinActive : Bool) (s : State) : State :=
  let virDispIdx := s.virDispIdx
  let extDispIdx := s.extDispIdx
  if disp ≠ extDispIdx ∧ disp ≠ virDispIdx then s
  else
    let displayCreated := s.occupied disp
    let cocuDisp := if disp = extDispIdx then virDispIdx else extDispIdx
    let cocuDispPresent := s.present lim cocuDisp
    if displayCreated then
      if builtinActive || cocuDispPresent then s.activateDisplay disp false else s
    else if !builtinActive && cocuDispPresent then s.activateDisplay cocuDisp true
    else s

/-- `HandleConcurrency(disp)`. -/
def handleConcurrency (disp : Nat) (s : State) : State :=
  if ¬s.primaryReady then s
  else
    let virDispIdx := s.virDispIdx
    let extDispIdx := s.extDispIdx
    let virDispPresent := s.virDispPresent lim
    let extDispPresent := s.extDispPresent lim
    let secBuiltinActive := s.getSecondBuiltinStatus
    if disp = s.getNextBuiltinIndex then
      if secBuiltinActive then
        let s := if extDispPresent then s.activateDisplay extDispIdx false else s
        if virDispPresent then s.activateDisplay virDispIdx false else s
      else if extDispPresent then s.activateDisplay extDispIdx true
      else if virDispPresent then s.activateDisplay virDispIdx true
      else s
    else nonBuiltinConcurrency lim disp secBuiltinActive s

/-! ## What `handleConcurrency` can do -/

/-- `t` is `s` after `ActivateDisplay` calls; a call that enables a display is made only
when `allowed` holds. -/
inductive Activated (allowed : Bool) : State → State → Prop
  | refl (s : State) : Activated allowed s s
  | deactivate {s t : State} (c : Nat) :
      Activated allowed s t → Activated allowed s (t.activateDisplay c false)
  | activate {s t : State} (c : Nat) (h : allowed = true) :
      Activated allowed s t → Activated allowed s (t.activateDisplay c true)

namespace Activated

variable {a : Bool} {s t : State}

theorem single (c : Nat) (e : Bool) (h : e = true → a = true) :
    Activated a s (s.activateDisplay c e) := by
  cases e
  · exact .deactivate c (.refl s)
  · exact .activate c (h rfl) (.refl s)

theorem occupied (h : Activated a s t) : t.occupied = s.occupied := by
  induction h <;> simp_all

theorem poweredOn (h : Activated a s t) : t.poweredOn = s.poweredOn := by
  induction h <;> simp_all

/-- Everything but the display table is untouched. -/
theorem others (h : Activated a s t) :
    t.mapInfo = s.mapInfo ∧ t.mapInfoBuiltin = s.mapInfoBuiltin ∧
      t.mapInfoPluggable = s.mapInfoPluggable ∧ t.mapInfoVirtual = s.mapInfoVirtual ∧
      t.primaryReady = s.primaryReady ∧ t.clientConnected = s.clientConnected ∧
      t.pluggableIsPrimary = s.pluggableIsPrimary ∧ t.nullDisplayActive = s.nullDisplayActive ∧
      t.hpdBpp = s.hpdBpp ∧ t.hpdPattern = s.hpdPattern ∧
      t.hotplugRegistered = s.hotplugRegistered ∧ t.hotplugs = s.hotplugs ∧
      t.powerHalHint = s.powerHalHint := by
  induction h <;> simp_all [State.activateDisplay, State.setDisplay]

theorem refreshes (h : Activated a s t) : t.refreshes = s.refreshes := by
  induction h <;> simp_all [State.activateDisplay]

theorem getSecondBuiltinStatus (h : Activated a s t) :
    t.getSecondBuiltinStatus = s.getSecondBuiltinStatus := by
  simp only [State.getSecondBuiltinStatus, State.getNextBuiltinIndex, h.occupied, h.poweredOn,
    h.others.2.1]

/-- Without leave to enable, a display is active afterwards only if it was before. -/
theorem displayActive_of_not_allowed (h : Activated a s t) (ha : a = false) (c : Nat)
    (hc : t.displayActive c = true) : s.displayActive c = true := by
  induction h with
  | refl => exact hc
  | deactivate c' _ ih =>
      rw [State.activateDisplay_displayActive] at hc
      split_ifs at hc
      · simp at hc
      · exact ih hc
  | activate c' h' _ => exact absurd (ha ▸ h') Bool.false_ne_true

end Activated

variable {lim}

theorem nonBuiltinConcurrency_activated (disp : Nat) (b : Bool) (s : State) :
    Activated (!b) s (nonBuiltinConcurrency lim disp b s) := by
  unfold nonBuiltinConcurrency
  dsimp only
  split_ifs with h₁ h₂ h₃ h₄ <;> first
    | exact .refl s
    | exact .single _ _ (fun h => by simp_all)

theorem handleConcurrency_activated (disp : Nat) (s : State) :
    Activated (!s.getSecondBuiltinStatus) s (handleConcurrency lim disp s) := by
  unfold handleConcurrency
  dsimp only
  split_ifs with h₁ h₂ h₃ h₄ h₅ h₆ h₇ <;> first
    | exact .refl s
    | exact .single _ _ (fun h => by simp_all)
    | exact .deactivate _ (.single _ _ (fun h => by simp_all))
    | exact .deactivate _ (.refl s)
    | exact nonBuiltinConcurrency_activated disp _ s

end HwcSession.Session
