import HwcSession.Pipeline.Frame

/-!
# `reset_panel_` between the uevent thread and the primary's validation

`reset_panel_` is a plain `bool` that two threads share with no lock. The uevent thread
raises it: `UEventHandler`, for a `PANEL_ALIVE=0` uevent of fb0, calls `Refresh(0)` and then
sets `reset_panel_ = true`. The composer's thread lowers it: `ValidateDisplayInternal` on the
primary tests it and, when it is raised, calls `ResetPanel()`, which powers the primary
off, restores its power mode, enables its vsync, and only then sets `reset_panel_ = false`.

This module interleaves those statements. A run logs what happened, newest first: each
write of the flag by the uevent thread (`died`, with whether the composer was inside
`ResetPanel` at that moment), each test of the flag, and each step of `ResetPanel`.

## Main results

* `death_outside_reset_served`: a panel death reported while the composer is not inside
  `ResetPanel` is never lost. A later power-off of the primary serves it, or
  `reset_panel_` is still raised, so the next validation of the primary serves it.
* `death_during_reset_lost`: a panel death reported after `ResetPanel` has restored the
  power mode, and before it lowers the flag, is lost. The flag ends down, and no validation
  power-cycles the panel again until another death is reported.
-/

namespace HwcSession.Pipeline

/-- The next statement of `ResetPanel()` the composer runs. -/
inductive ResetStep where
  /-- `SetPowerMode(PowerMode::Off)` on the primary. -/
  | powerOff
  /-- `SetPowerMode(GetLastPowerMode())`. -/
  | restore
  /-- `SetVsyncEnabled(Vsync::Enable)`. -/
  | vsync
  /-- `reset_panel_ = false`. -/
  | clear
  deriving DecidableEq, Repr

/-- What happened, in the order of the run. -/
inductive PanelEvent where
  /-- The uevent thread wrote `reset_panel_ = true`; `inReset` if the composer was inside
  `ResetPanel()`. -/
  | died (inReset : Bool)
  /-- `ValidateDisplayInternal` on the primary read `reset_panel_`. -/
  | tested (flag : Bool)
  /-- A statement of `ResetPanel()`. -/
  | reset (s : ResetStep)
  deriving DecidableEq, Repr

/-- The shared flag, the composer's place in `ResetPanel()` (`none` outside it), whether the
uevent thread has made its `Refresh(0)` and not yet written the flag, and the log. -/
structure Panel where
  resetPanel : Bool
  resetting : Option ResetStep
  refreshed : Bool
  log : List PanelEvent

/-- One statement of one thread. -/
inductive PanelLabel where
  /-- The uevent thread's `Refresh(0)` for a `PANEL_ALIVE=0` uevent. -/
  | refresh
  /-- The uevent thread's `reset_panel_ = true`. -/
  | raise
  /-- The composer's test of `reset_panel_` in `ValidateDisplayInternal(HWC_DISPLAY_PRIMARY)`. -/
  | test
  /-- The composer's next statement of `ResetPanel()`. -/
  | resetStep
  deriving DecidableEq

namespace Panel

/-- The statement of `ResetPanel()` after `s`. -/
def ResetStep.next : ResetStep → Option ResetStep
  | .powerOff => some .restore
  | .restore => some .vsync
  | .vsync => some .clear
  | .clear => none

/-- The state after one statement; `none` when the thread cannot take it. -/
def step : PanelLabel → Panel → Option Panel
  | .refresh, c => if c.refreshed then none else some { c with refreshed := true }
  | .raise, c =>
      if c.refreshed then
        some { c with resetPanel := true, refreshed := false,
                      log := .died c.resetting.isSome :: c.log }
      else none
  | .test, c =>
      if c.resetting.isSome then none
      else
        some { c with resetting := if c.resetPanel then some .powerOff else none,
                      log := .tested c.resetPanel :: c.log }
  | .resetStep, c =>
      match c.resetting with
      | none => none
      | some s =>
          some { c with resetting := ResetStep.next s,
                        resetPanel := if s = .clear then false else c.resetPanel,
                        log := .reset s :: c.log }

/-- The steps of `ls`, in order, from `c`. -/
def run : List PanelLabel → Panel → Option Panel
  | [], c => some c
  | l :: ls, c => (step l c).bind (run ls)

/-- A session whose flag is down, with neither thread in these statements. -/
def quiet : Panel := ⟨false, none, false, []⟩

/-- The configurations a run from `quiet` reaches. -/
inductive Reachable : Panel → Prop
  | quiet : Reachable quiet
  | step (l : PanelLabel) {c c' : Panel} (hc : Reachable c) (h : step l c = some c') : Reachable c'

/-! ## The sequential calls are the statements run back to back -/

/-- The composer's test, followed at once by the whole of `ResetPanel()` when the flag is
raised, leaves the flag as `ValidateDisplayInternal` on the primary does. -/
theorem run_test_reset (p : State) (log : List PanelEvent) :
    (run (if p.resetPanel then [.test, .resetStep, .resetStep, .resetStep, .resetStep] else [.test])
        ⟨p.resetPanel, none, false, log⟩).map (·.resetPanel) =
      some (if p.resetPanel then Pipeline.resetPanel p else p).resetPanel := by
  cases h : p.resetPanel <;> simp [run, step, ResetStep.next, h, Pipeline.resetPanel]

/-! ## A death reported outside `ResetPanel` is served -/

/-- `e` comes, in the log, after the event at index `k`. -/
def After (log : List PanelEvent) (k : Nat) (e : PanelEvent) : Prop := ∃ k' < k, log[k']? = some e

/-- What every reachable configuration keeps. Inside `ResetPanel()` the flag is raised, as
only the composer lowers it; past the power-off, every death reported outside `ResetPanel`
is followed by a power-off; and with the flag down, so is every such death. -/
structure Invariant (c : Panel) : Prop where
  raised : c.resetting.isSome → c.resetPanel = true
  poweredOff : ∀ s, c.resetting = some s → s ≠ .powerOff →
    ∀ k, c.log[k]? = some (.died false) → After c.log k (.reset .powerOff)
  served : c.resetPanel = false →
    ∀ k, c.log[k]? = some (.died false) → After c.log k (.reset .powerOff)

variable {c c' : Panel} {l : PanelLabel}

/-- Everything one statement can do, with the guard under which the thread can take it. -/
theorem step_cases (h : Panel.step l c = some c') :
    (l = .refresh ∧ c' = { c with refreshed := true }) ∨
    (l = .raise ∧ c.refreshed = true ∧
      c' = { c with resetPanel := true, refreshed := false,
                    log := .died c.resetting.isSome :: c.log }) ∨
    (l = .test ∧ c.resetting = none ∧
      c' = { c with resetting := if c.resetPanel then some .powerOff else none,
                    log := .tested c.resetPanel :: c.log }) ∨
    ∃ s, l = .resetStep ∧ c.resetting = some s ∧
      c' = { c with resetting := ResetStep.next s,
                    resetPanel := if s = .clear then false else c.resetPanel,
                    log := .reset s :: c.log } := by
  cases l <;> simp only [Panel.step] at h
  case refresh =>
    split at h
    · cases h
    · exact .inl ⟨rfl, (Option.some.inj h).symm⟩
  case raise =>
    split at h
    · exact .inr (.inl ⟨rfl, ‹_›, (Option.some.inj h).symm⟩)
    · cases h
  case test =>
    split at h
    · cases h
    next hr => exact .inr (.inr (.inl ⟨rfl, by simpa using hr, (Option.some.inj h).symm⟩))
  case resetStep =>
    split at h
    · cases h
    · exact .inr (.inr (.inr ⟨_, rfl, ‹_›, (Option.some.inj h).symm⟩))

theorem After.cons {log : List PanelEvent} {k : Nat} {e : PanelEvent} (h : After log k e)
    (e' : PanelEvent) : After (e' :: log) (k + 1) e := by
  obtain ⟨k', hk', he⟩ := h
  exact ⟨k' + 1, by omega, by simpa using he⟩

/-- A fact about every death of the log survives a new event at the front, when the new
event is not itself a death reported outside `ResetPanel`. -/
theorem forall_died_cons {log : List PanelEvent} {e' : PanelEvent} (he' : e' ≠ .died false)
    (h : ∀ k, log[k]? = some (.died false) → After log k (.reset .powerOff)) :
    ∀ k, (e' :: log)[k]? = some (.died false) → After (e' :: log) k (.reset .powerOff)
  | 0, hk => absurd (by simpa using hk) he'
  | k + 1, hk => (h k (by simpa using hk)).cons e'

theorem Invariant.step (hi : c.Invariant) (h : Panel.step l c = some c') : c'.Invariant := by
  rcases step_cases h with ⟨-, rfl⟩ | ⟨-, -, rfl⟩ | ⟨-, hr, rfl⟩ | ⟨s, -, hs, rfl⟩
  case inl => exact ⟨hi.raised, hi.poweredOff, hi.served⟩
  case inr.inl =>
    refine ⟨fun _ => rfl, fun s hs hne k hk => ?_, fun h => absurd h Bool.noConfusion⟩
    have hs' : c.resetting = some s := hs
    have hd : PanelEvent.died c.resetting.isSome ≠ .died false := by simp [hs']
    exact forall_died_cons hd (hi.poweredOff s hs' hne) k hk
  case inr.inr.inl =>
    cases hp : c.resetPanel
    · exact ⟨fun h => by simp [hp] at h, fun s h => by simp [hp] at h,
        fun _ => forall_died_cons (by simp) (hi.served hp)⟩
    · exact ⟨fun _ => rfl, fun s h hne => absurd (by simpa using h.symm) hne,
        fun h => by simp [hp] at h⟩
  case inr.inr.inr =>
    have hraised := hi.raised (by simp [hs])
    have hold := hi.poweredOff s hs
    cases s with
    | powerOff =>
        refine ⟨fun _ => hraised, fun _ _ _ k hk => ?_, fun h => by simp [hraised] at h⟩
        cases k with
        | zero => simp at hk
        | succ k => exact ⟨0, by omega, by simp⟩
    | restore | vsync =>
        exact ⟨fun _ => hraised, fun _ _ _ => forall_died_cons (by simp) (hold (by simp)),
          fun h => by simp [hraised] at h⟩
    | clear =>
        exact ⟨fun h => by simp [ResetStep.next] at h, fun _ h => by simp [ResetStep.next] at h,
          fun _ => forall_died_cons (by simp) (hold (by simp))⟩

theorem Reachable.invariant (h : Reachable c) : c.Invariant := by
  induction h with
  | quiet => exact ⟨fun h => by simp [Panel.quiet] at h, fun _ h => by simp [Panel.quiet] at h,
      fun _ _ hk => by simp [Panel.quiet] at hk⟩
  | step l _ h ih => exact ih.step h

theorem Reachable.run : ∀ {c c' : Panel} {ls : List PanelLabel}, Reachable c →
    Panel.run ls c = some c' → Reachable c'
  | _, _, [], hc, h => Option.some.inj h ▸ hc
  | _, _, l :: _, hc, h => by
      obtain ⟨c₁, h₁, h'⟩ := Option.bind_eq_some.1 h
      exact (Reachable.step l hc h₁).run h'

/-- A panel death that the uevent thread reports while the composer is not inside
`ResetPanel()` is never lost: the primary has been powered off after it, or `reset_panel_`
is still raised and the primary's next validation will power-cycle it. -/
theorem death_outside_reset_served (hc : Reachable c) {k : Nat}
    (hk : c.log[k]? = some (.died false)) :
    After c.log k (.reset .powerOff) ∨ c.resetPanel = true := by
  cases hp : c.resetPanel
  · exact .inl (hc.invariant.served hp k hk)
  · exact .inr rfl

/-- A death reported, then the whole of `ResetPanel()` and a validation that finds the flag
down. -/
def cycled : Panel :=
  ⟨false, none, false, [.tested false, .reset .clear, .reset .vsync, .reset .restore,
    .reset .powerOff, .tested true, .died false]⟩

theorem run_cycled : run [.refresh, .raise, .test, .resetStep, .resetStep, .resetStep, .resetStep,
    .test] quiet = some cycled := rfl

theorem death_outside_reset_served_of_cycled :
    After cycled.log 6 (.reset .powerOff) ∨ cycled.resetPanel = true :=
  death_outside_reset_served (Reachable.quiet.run run_cycled) rfl

/-! ## A death reported inside `ResetPanel` is lost -/

/-- The composer will not power the primary off before the uevent thread next raises the flag:
it is outside `ResetPanel()` with the flag down, or inside it past the power-off. -/
def NoPowerOffAhead (c : Panel) : Prop :=
  (c.resetting = none → c.resetPanel = false) ∧ c.resetting ≠ some .powerOff

/-- A statement other than the uevent thread's write of the flag keeps `NoPowerOffAhead`, and
logs no power-off. -/
theorem NoPowerOffAhead.step (hn : c.NoPowerOffAhead) (hl : l ≠ .raise)
    (h : Panel.step l c = some c') :
    c'.NoPowerOffAhead ∧ ∃ new, c'.log = new ++ c.log ∧ .reset .powerOff ∉ new := by
  rcases step_cases h with ⟨-, rfl⟩ | ⟨rfl, -, -⟩ | ⟨-, hr, rfl⟩ | ⟨s, -, hs, rfl⟩
  case inl => exact ⟨hn, [], rfl, by simp⟩
  case inr.inl => exact absurd rfl hl
  case inr.inr.inl =>
    have hp := hn.1 hr
    exact ⟨⟨fun _ => hp, by simp [hp]⟩, [.tested c.resetPanel], rfl, by simp⟩
  case inr.inr.inr =>
    refine ⟨?_, [.reset s], rfl, by
      simp only [List.mem_singleton, PanelEvent.reset.injEq]
      rintro rfl
      exact hn.2 hs⟩
    cases s with
    | powerOff => exact absurd hs hn.2
    | clear => exact ⟨fun _ => rfl, by simp [ResetStep.next]⟩
    | restore | vsync => exact ⟨fun h => by simp [ResetStep.next] at h, by simp [ResetStep.next]⟩

theorem NoPowerOffAhead.run : ∀ {c c' : Panel} {ls : List PanelLabel}, c.NoPowerOffAhead →
    .raise ∉ ls → Panel.run ls c = some c' →
    c'.NoPowerOffAhead ∧ ∃ new, c'.log = new ++ c.log ∧ .reset .powerOff ∉ new
  | _, _, [], hn, _, h => by cases h; exact ⟨hn, [], rfl, by simp⟩
  | _, _, l :: _, hn, hl, h => by
      obtain ⟨c₁, h₁, h'⟩ := Option.bind_eq_some.1 h
      obtain ⟨hn₁, new₁, hlog₁, hnew₁⟩ :=
        hn.step (fun he => hl (he ▸ List.mem_cons_self _ _)) h₁
      obtain ⟨hn', new, hlog, hnew⟩ := hn₁.run (fun h => hl (List.mem_cons_of_mem _ h)) h'
      exact ⟨hn', new ++ new₁, by simp [hlog, hlog₁], by simp [hnew, hnew₁]⟩

/-- A panel death that the uevent thread reports once `ResetPanel()` has powered the primary
off is lost: whatever the two threads do next, up to the uevent thread's next write of the
flag, no power-off follows it, and once the composer is out of `ResetPanel()` the flag is
down. -/
theorem death_during_reset_lost {s : ResetStep} {ls : List PanelLabel}
    (hs : c.resetting = some s) (hne : s ≠ .powerOff) (hl : PanelLabel.raise ∉ ls)
    (h : run (.raise :: ls) c = some c') :
    ∃ new, c'.log = new ++ .died true :: c.log ∧ .reset .powerOff ∉ new ∧
      (c'.resetting = none → c'.resetPanel = false) := by
  obtain ⟨c₁, h₁, h'⟩ := Option.bind_eq_some.1 h
  rcases step_cases h₁ with ⟨⟨⟩, -⟩ | ⟨-, -, hc₁⟩ | ⟨⟨⟩, -⟩ | ⟨_, ⟨⟩, -⟩
  have hn₁ : c₁.NoPowerOffAhead := by
    subst hc₁
    exact ⟨fun h => by simp [hs] at h, by simpa [hs] using hne⟩
  obtain ⟨hn', new, hlog, hnew⟩ := hn₁.run hl h'
  exact ⟨new, by simpa [hc₁, hs] using hlog, hnew, hn'.1⟩

/-- The composer has restored the primary's power mode, and the uevent thread has made the
`Refresh(0)` of a second death. -/
def restored : Panel :=
  ⟨true, some .vsync, true, [.reset .restore, .reset .powerOff, .tested true, .died false]⟩

theorem run_restored :
    run [.refresh, .raise, .test, .resetStep, .resetStep, .refresh] quiet = some restored := rfl

/-- The second death, then the rest of `ResetPanel()` and a validation. -/
def lost : Panel :=
  ⟨false, none, false, [.tested false, .reset .clear, .reset .vsync, .died true, .reset .restore,
    .reset .powerOff, .tested true, .died false]⟩

theorem death_during_reset_lost_after_restore :
    Reachable restored ∧
      ∃ new, lost.log = new ++ .died true :: restored.log ∧ .reset .powerOff ∉ new ∧
        (lost.resetting = none → lost.resetPanel = false) :=
  ⟨Reachable.quiet.run run_restored,
    @death_during_reset_lost restored lost .vsync [.resetStep, .resetStep, .test] rfl (by decide)
      (by decide) rfl⟩

end Panel

end HwcSession.Pipeline
