import Checkpointing.Proofs.Session.InPlace

/-!
# Runs and the steps that leave no trace

A run in place is logged step by step. Steps that only ask and steps that fail can be struck from it: the
steps that are left report the same and lead to the same sessions when they are run without the others.
-/

namespace Checkpointing.Session
set_option autoImplicit false

def answered (s : Session) (step : Step) : Traced Error Answer × Session :=
  ((s.take step).andThen fun (_, answer) => .ok answer, s.next step)

theorem perform_eq (s : Session) (step : Step) : s.perform step = s.answered step := by
  unfold perform answered
  cases h : writing? step with
  | none => rfl
  | some p =>
    obtain ⟨hwhole, f, hf, htake⟩ := performs_of_writing (s := s) h
    simp only [writeWith, hf.eq_of_whole hwhole, next, htake]
    cases hfc : (f s.config).outcome with
    | error cause => simp [onConfig, Traced.andThen, hfc]; rfl
    | ok d => simp [onConfig, Traced.andThen, hfc]

def Step.IsQuery : Step → Prop
  | .barrier _ | .options | .optionsRoundTrip | .json | .job | .equals _ => True
  | .change _ | .mode _ | .retention _ | .configure _ | .enable _ | .enableWithMode _ _ | .loadJson _
  | .fresh _ | .save | .restore _ => False

structure Entry where
  step : Step
  report : Traced Error Answer
  after : Session

def log (s : Session) : List Step → List Entry
  | [] => []
  | step :: steps => ⟨step, (s.perform step).1, (s.perform step).2⟩ :: (s.perform step).2.log steps

/-- The step only asked, or it failed. -/
def Entry.IsIdle (e : Entry) : Prop := e.step.IsQuery ∨ ∃ cause, e.report.outcome = .error cause

/-- The second log is the first without some of its idle entries. -/
inductive Thinned : List Entry → List Entry → Prop where
  | nil : Thinned [] []
  | keep (e : Entry) {whole part : List Entry} (rest : Thinned whole part) :
      Thinned (e :: whole) (e :: part)
  | strike {e : Entry} (idle : e.IsIdle) {whole part : List Entry} (rest : Thinned whole part) :
      Thinned (e :: whole) part

theorem next_of_isQuery {s : Session} {step : Step} (h : step.IsQuery) : s.next step = s := by
  cases step <;> try exact h.elim
  case equals index =>
    unfold next
    split
    · rename_i s' answer hok
      obtain ⟨e, _, he⟩ := Outcome.bind_eq_ok_iff.mp ((Traced.outcome_andThen _ _).symm.trans hok)
      exact (Prod.ext_iff.mp (Except.ok.inj he)).1.symm
    · rfl
  all_goals rfl

/-- A step that fails reports the cause, and the session stays as it was. -/
theorem next_of_report_error {s : Session} {step : Step} {cause : Error}
    (h : (s.perform step).1.outcome = .error cause) : s.next step = s := by
  rw [perform_eq, answered] at h
  cases htake : (s.take step).outcome with
  | error cause' => simp only [next, htake]
  | ok a => simp [Traced.andThen, htake] at h

theorem log_map_step_of_thinned {s : Session} {steps : List Step} {part : List Entry}
    (h : Thinned (s.log steps) part) : s.log (part.map Entry.step) = part := by
  induction steps generalizing s part with
  | nil =>
    cases h
    rfl
  | cons step steps ih =>
    cases h with
    | keep e rest => simp only [List.map_cons, log, ih rest]
    | strike idle rest =>
      have hsame : (s.perform step).2 = s := by
        rw [perform_eq]
        rcases idle with hquery | ⟨cause, hfail⟩
        · exact next_of_isQuery hquery
        · exact next_of_report_error hfail
      rw [hsame] at rest
      exact ih rest

/-- Steps in place lead where steps lead, and any idle ones can be struck from a run. -/
theorem idle_steps_leave_no_trace :
    (∀ s step, perform s step = answered s step) ∧
      ∀ (s : Session) (steps : List Step) (part : List Entry), Thinned (s.log steps) part →
        s.log (part.map Entry.step) = part :=
  ⟨perform_eq, fun _ _ _ => log_map_step_of_thinned⟩

def goUnaligned : Step := .configure (.ofPairs [("execution.checkpointing.unaligned", "true")])

/-- Both failures come after the mode has been written. -/
theorem idle_steps_leave_no_trace_between_changes :
    ((start "orders").log [.enable 5, goUnaligned]).map Entry.after =
      [(start "orders").withConfig { Config.default with interval := 5 },
       (start "orders").withConfig { Config.default with interval := 5, unaligned := true }] := by
  have h := idle_steps_leave_no_trace.2 (start "orders")
    [.configure (.ofPairs [("execution.checkpointing.mode", "AT_LEAST_ONCE"),
        ("execution.checkpointing.unaligned", "true")]),
     .job, .enable 5, .enableWithMode (-1) "AT_LEAST_ONCE", goUnaligned] _
    (.strike (.inr ⟨_, rfl⟩) (.strike (.inl (show Step.IsQuery .job from trivial))
      (.keep _ (.strike (.inr ⟨_, rfl⟩) (.keep _ .nil)))))
  exact (congrArg (List.map Entry.after) h).trans rfl

end Checkpointing.Session
