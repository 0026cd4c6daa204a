import Checkpointing.Proofs.Session.Thinning

/-!
# What persists along a run

What changes of settings keep is kept by all steps in place that do not put other settings in the place of
those held, whether they are done or not. That checkpoints are on is kept: they are never turned off again.
What default settings have too is kept by the other steps as well, for a run can only go back to settings
that it once had.
-/

namespace Checkpointing
set_option autoImplicit false

namespace Session
open Config (Persists)
variable {holds : List Event → Config → Prop} {log : List Event} {s : Session} {step : Step}
  {x : Traced Error Config}

def Step.IsReplacement : Step → Prop
  | .fresh _ | .restore _ | .loadJson _ => True
  | .change _ | .mode _ | .retention _ | .configure _ | .enable _ | .enableWithMode _ _ | .save
  | .barrier _ | .options | .optionsRoundTrip | .json | .job | .equals _ => False

def run (s : Session) (steps : List Step) : Session :=
  steps.foldl (fun s step => (s.perform step).2) s

def written (entries : List Entry) : List Event := entries.flatMap (·.report.events)

theorem events_perform (s : Session) (step : Step) :
    (s.perform step).1.events = (s.take step).events := by
  rw [perform_eq, answered]
  cases h : (s.take step).outcome with
  | error cause => rw [Traced.andThen_of_error h]
  | ok a => rw [Traced.andThen_of_ok h, Traced.events_ok, List.append_nil]

theorem holds_of_take (h : Persists holds) (hs : holds log s.config)
    (htake : s.take step = s.onConfig x) (hx : x.Ensures log holds) :
    holds (log ++ (s.take step).events) (s.next step).config := by
  cases hout : x.outcome with
  | error cause =>
    have hfail : (s.take step).outcome = .error cause := by
      rw [htake]
      exact Traced.outcome_bind_eq_error_iff.mpr (.inl hout)
    rw [next, hfail]
    exact h.more hs _
  | ok d =>
    have hdone : s.take step = ⟨x.events, .ok (s.withConfig d, .done)⟩ := by
      rw [htake, onConfig, Traced.bind_eq, Traced.andThen_of_ok hout]
      exact congrArg (Traced.mk · _) (List.append_nil x.events)
    rw [next, hdone]
    exact hx d hout

/-- A step that is done keeps what persists, unless it replaces the settings. -/
theorem holds_next (h : Persists holds) (hs : holds log s.config) (hstep : ¬step.IsReplacement) :
    holds (log ++ (s.take step).events) (s.next step).config := by
  by_cases hquery : step.IsQuery
  · rw [next_of_isQuery hquery]
    exact h.more hs _
  cases step with
  | change change => exact holds_of_take h hs rfl ((h.update hs change).mapError _)
  | mode label =>
    apply holds_of_take h hs rfl
    exact Traced.Ensures.mapError (Traced.ensures_given fun mode _ => h.update hs (.mode mode)) _
  | retention label =>
    apply holds_of_take h hs rfl
    exact Traced.Ensures.mapError (Traced.ensures_given fun r _ => h.update hs (.retention r)) _
  | configure options => exact holds_of_take h hs rfl ((h.configure hs options).mapError _)
  | enable ms =>
    apply holds_of_take h hs (s.take_enable ms)
    exact (h.update hs (.interval ms)).mapError _
  | enableWithMode ms label =>
    apply holds_of_take h hs (s.take_enableWithMode ms label)
    exact Traced.Ensures.mapError
      (Traced.ensures_given fun mode _ => h.update_mode_interval hs mode ms) _
  | save => exact h.more hs _
  | barrier | options | optionsRoundTrip | json | job | equals => exact absurd trivial hquery
  | fresh | restore | loadJson => exact absurd trivial hstep

theorem next_restore (s : Session) (index : Nat) :
    s.next (.restore index) = s ∨
      ∃ e ∈ s.saved, s.next (.restore index) = { s with environment := e } := by
  cases hcopy : s.saved[index]? with
  | none =>
    refine .inl ?_
    simp [next, take, copy, hcopy]
  | some e =>
    refine .inr ⟨e, List.mem_of_getElem? hcopy, ?_⟩
    simp [next, take, copy, hcopy]

theorem mem_saved_next {e : Environment} (he : e ∈ (s.next step).saved) :
    e ∈ s.saved ∨ e = s.environment := by
  cases hwriting : writing? step with
  | some p =>
    -- in place only the settings are written to
    have hsaved : (s.perform step).2.saved = s.saved := by
      rw [perform, hwriting]
      rfl
    rw [perform_eq] at hsaved
    exact .inl (hsaved ▸ he)
  | none =>
    by_cases hquery : step.IsQuery
    · rw [next_of_isQuery hquery] at he
      exact .inl he
    cases step <;> simp only [writing?, reduceCtorEq] at hwriting
    case fresh name => exact .inl he
    case save =>
      rcases List.mem_append.mp he with he | he
      · exact .inl he
      · exact .inr (List.mem_singleton.mp he)
    case restore index =>
      rcases next_restore s index with hsame | ⟨e', _, hnext⟩
      · exact .inl (hsame ▸ he)
      · rw [hnext] at he
        exact .inl he
    all_goals exact absurd trivial hquery

/-- All settings that a run can come back to. -/
structure Everywhere (holds : List Event → Config → Prop) (log : List Event) (s : Session) : Prop where
  config : holds log s.config
  saved : ∀ e ∈ s.saved, holds log e.config

theorem everywhere_start (name : String) (hdefault : holds log .default) :
    (start name).Everywhere holds log where
  config := hdefault
  saved := fun _ he => absurd he List.not_mem_nil

theorem Everywhere.config_next (hs : s.Everywhere holds log) (h : Persists holds)
    (hdefault : ∀ log, holds log .default) (step : Step) :
    holds (log ++ (s.take step).events) (s.next step).config := by
  by_cases hstep : step.IsReplacement
  · cases step with
    | fresh name => exact hdefault _
    | loadJson text =>
      apply holds_of_take h hs.config rfl
      exact (h.ofJson hdefault text).mapError _
    | restore index =>
      rcases next_restore s index with hsame | ⟨e, he, hnext⟩
      · rw [hsame]
        exact h.more hs.config _
      · rw [hnext]
        exact h.more (hs.saved e he) _
    | change | mode | retention | configure | enable | enableWithMode | save | barrier | options
    | optionsRoundTrip | json | job | equals => exact hstep.elim
  · exact holds_next h hs.config hstep

theorem Everywhere.next (hs : s.Everywhere holds log) (h : Persists holds)
    (hdefault : ∀ log, holds log .default) (step : Step) :
    (s.next step).Everywhere holds (log ++ (s.take step).events) where
  config := hs.config_next h hdefault step
  saved e he := by
    rcases mem_saved_next he with he | rfl
    · exact h.more (hs.saved e he) _
    · exact h.more hs.config _

/-- The step was done, and other settings are in the place of those held before. -/
def Entry.Replaces (e : Entry) : Prop :=
  e.step.IsReplacement ∧ ∃ answer, e.report.outcome = .ok answer

theorem run_cons (s : Session) (step : Step) (steps : List Step) :
    s.run (step :: steps) = (s.next step).run steps := by
  rw [run, List.foldl_cons, perform_eq]
  rfl

theorem log_cons (s : Session) (step : Step) (steps : List Step) :
    s.log (step :: steps) =
      ⟨step, (s.perform step).1, s.next step⟩ :: (s.next step).log steps := by
  rw [log, perform_eq]
  rfl

theorem written_log_cons (s : Session) (step : Step) (steps : List Step) :
    written (s.log (step :: steps)) = (s.take step).events ++ written ((s.next step).log steps) := by
  rw [log_cons, written, List.flatMap_cons, events_perform]
  rfl

/-- What every step keeps holds at the end of a run, with the events of the run in the log. -/
theorem run_invariant (kept : List Event → Session → Prop) {fits : Entry → Prop}
    (hstep : ∀ log s step, kept log s → fits ⟨step, (s.perform step).1, s.next step⟩ →
      kept (log ++ (s.take step).events) (s.next step))
    (steps : List Step) (hs : kept log s) (hfits : ∀ e ∈ s.log steps, fits e) :
    kept (log ++ written (s.log steps)) (s.run steps) := by
  induction steps generalizing log s with
  | nil => exact (List.append_nil log).symm ▸ hs
  | cons step steps ih =>
    -- the first step's events join the log that the others start from
    rw [log_cons] at hfits
    rw [run_cons, written_log_cons, ← List.append_assoc]
    apply ih
    · exact hstep log s step hs (hfits _ List.mem_cons_self)
    · exact fun e he => hfits e (List.mem_cons_of_mem _ he)

theorem holds_run (h : Persists holds) (log : List Event) (steps : List Step) (hs : holds log s.config)
    (hsteps : ∀ e ∈ s.log steps, ¬e.Replaces) :
    holds (log ++ written (s.log steps)) (s.run steps).config := by
  apply run_invariant (fun log s => holds log s.config) _ steps hs hsteps
  intro log s step hs hfits
  by_cases hstep : step.IsReplacement
  · cases hout : (s.perform step).1.outcome with
    | error cause =>
      rw [next_of_report_error hout]
      exact h.more hs _
    | ok answer => exact absurd ⟨hstep, answer, hout⟩ hfits
  · exact holds_next h hs hstep

/-- If default settings have it too, no step at all ends it. -/
theorem Everywhere.run (hs : s.Everywhere holds log) (h : Persists holds)
    (hdefault : ∀ log, holds log .default) (steps : List Step) :
    (s.run steps).Everywhere holds (log ++ written (s.log steps)) := by
  apply run_invariant (fun log s => s.Everywhere holds log) _ steps hs
  · exact fun _ _ => trivial
  · exact fun _ _ step hs _ => hs.next h hdefault step

theorem run_append (s : Session) (before after : List Step) :
    s.run (before ++ after) = (s.run before).run after := by
  rw [run, run, run, List.foldl_append]

/-- Checkpoints that are on at some point of a run stay on, until a step puts other settings in the place
of those held. -/
theorem enabled_until_replaced (s : Session) (before after : List Step)
    (henabled : (s.run before).config.isEnabled)
    (hafter : ∀ e ∈ (s.run before).log after, ¬e.Replaces) :
    (s.run (before ++ after)).config.isEnabled := by
  rw [run_append]
  exact holds_run Config.persists_isEnabled [] after henabled hafter

/-- All these steps are refused; the last two would have replaced the settings. -/
def vainSteps : List Step :=
  [.change (.interval (-1)), .configure (.ofPairs [("execution.checkpointing.interval", "0")]),
    .enableWithMode 0 "AT_LEAST_ONCE", .loadJson "\x7b\"interval_ms\":0\x7d", .restore 0]

theorem enabled_until_replaced_through_failures :
    ((start "orders").run [.enable 5]).config.isEnabled ∧
      (∀ e ∈ ((start "orders").run [.enable 5]).log vainSteps, ¬e.Replaces) ∧
      ((start "orders").run ([.enable 5] ++ vainSteps)).config.isEnabled := by
  have henabled : ((start "orders").run [.enable 5]).config.isEnabled := rfl
  have hafter : ∀ e ∈ ((start "orders").run [.enable 5]).log vainSteps, ¬e.Replaces := by
    intro e he
    simp only [vainSteps, log, List.mem_cons, List.not_mem_nil, or_false] at he
    rcases he with rfl | rfl | rfl | rfl | rfl
    · exact And.left
    · exact And.left
    · exact And.left
    all_goals
      intro hreplaces
      obtain ⟨answer, hdone⟩ := hreplaces.2
      cases hdone
  exact ⟨henabled, hafter, enabled_until_replaced _ _ _ henabled hafter⟩

end Session
end Checkpointing
