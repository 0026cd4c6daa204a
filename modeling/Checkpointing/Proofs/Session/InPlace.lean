import Checkpointing.Proofs.Options.Batch
import Checkpointing.Session

/-!
# Settings changed in place

A session can be kept in one place and written to as a step goes on. Then a step that fails leaves what
it has written so far: a batch may have set a dozen settings when an option is refused. Such a step
works on a copy, which takes the place of the settings only when all has gone well. So the session in
place is at every point the session that steps lead to.
-/

namespace Checkpointing
set_option autoImplicit false

/-- A computation that writes to settings. Its end is reported, and what it has written stays. -/
abbrev InPlace (ε : Type) := Config → Traced ε Unit × Config

namespace InPlace
variable {ε δ α : Type}

def skip : InPlace ε := fun c => (.ok (), c)

def fail (cause : ε) : InPlace ε := fun c => (.fail cause, c)

def log (events : List Event) : InPlace ε := fun c => (.log events, c)

def write (f : Config → Config) : InPlace ε := fun c => (.ok (), f c)

/-- Goes on with what a computation gives that has nothing to do with the settings. -/
def given (x : Traced ε α) (p : α → InPlace ε) : InPlace ε := fun c =>
  match x.outcome with
  | .ok a => (x.andThen fun _ => (p a c).1, (p a c).2)
  | .error cause => (⟨x.events, .error cause⟩, c)

/-- Goes on with the settings as they are, unless the first part has failed. -/
def andThen (p q : InPlace ε) : InPlace ε := fun c =>
  match (p c).1.outcome with
  | .ok _ => ((p c).1.andThen fun _ => (q (p c).2).1, (q (p c).2).2)
  | .error _ => p c

def sequence (parts : List (InPlace ε)) : InPlace ε := parts.foldr andThen skip

/-- Works on a copy of the settings and puts it in their place at the end, but not after a failure. -/
def onCopy (p : InPlace ε) : InPlace ε := fun c =>
  match (p c).1.outcome with
  | .ok _ => p c
  | .error _ => ((p c).1, c)

def mapError (f : ε → δ) (p : InPlace ε) : InPlace δ := fun c => ((p c).1.mapError f, (p c).2)

def set (change : Change) : InPlace Rejection := fun c =>
  match c.refusal? change with
  | some cause => fail cause c
  | none => (⟨(c.set change).eventsOf change, .ok ()⟩, c.set change)

def applyOption (options : Options) (s : Setting) : InPlace (Failure Rejection) :=
  match options.lookup s with
  | none => skip
  | some value =>
    match Change.read s (Text.trim value) with
    | .error cause => fail cause
    | .ok change => ((set change).mapError .refused).andThen (log [.optionApplied s.key value])

def releaseUnaligned (options : Options) : InPlace (Failure Rejection) :=
  match options.lookup .unaligned with
  | none => skip
  | some value =>
    match Options.readFlag .unaligned (Text.trim value) with
    | .error cause => fail (.refused cause)
    | .ok on => if on then skip else write (·.set (.unaligned false))

def configure (options : Options) : InPlace (Failure Rejection) :=
  (log (options.unknownKeys.map .optionIgnored)).andThen
    (onCopy ((releaseUnaligned options).andThen (sequence (Setting.all.map (applyOption options)))))

def enableWithMode (interval : Int64) (mode : Mode) : InPlace Rejection :=
  onCopy ((set (.mode mode)).andThen (set (.interval interval)))

def accept (values : Config) : InPlace Rejection :=
  (write fun _ => .default).andThen
    (sequence (values.acceptanceOrder.map fun s => set (values.get s)))

/-- Loads a snapshot. What follows it in the text is looked at last. -/
def loadJson (text : String) : InPlace Json.Error :=
  onCopy (given (Snapshot.shape.read text.toList) fun read =>
    ((accept read.1.overlay).mapError fun cause => .data (.refused cause)).andThen
      (if Json.skipSpace read.2 = [] then skip else fail .malformed))

/-- The settings are written to as `f` computes them. Nothing is said of what a failure leaves. -/
structure Computes (p : InPlace ε) (f : Config → Traced ε Config) : Prop where
  report : ∀ c, (p c).1 = (f c).andThen fun _ => .ok ()
  written : ∀ c d, (f c).outcome = .ok d → (p c).2 = d

/-- A failure leaves the settings as they were. -/
def Whole (p : InPlace ε) : Prop := ∀ c cause, (p c).1.outcome = .error cause → (p c).2 = c

section Laws
variable {p q : InPlace ε} {f g : Config → Traced ε Config}

theorem Computes.congr (h : Computes p f) (hfg : ∀ c, f c = g c) : Computes p g := funext hfg ▸ h

theorem computes_skip : Computes (skip : InPlace ε) Traced.ok where
  report := fun c => (Traced.ok_andThen c fun _ => .ok ()).symm
  written := fun _ _ h => Except.ok.inj h

theorem computes_fail (cause : ε) : Computes (fail cause) fun _ => .fail cause where
  report := fun _ => (Traced.fail_andThen cause _).symm
  written := fun _ _ h => absurd h (by simp)

theorem computes_log (events : List Event) :
    Computes (log events : InPlace ε) fun c => (Traced.log events).andThen fun _ => .ok c where
  report := by
    intro c
    apply Traced.ext
    · simp [log, Traced.andThen]
    · simp [log, Except.bind]
  written := by
    intro c d h
    simp only [Traced.outcome_andThen, Traced.outcome_log, Traced.outcome_ok, Except.bind,
      Except.ok.injEq] at h
    exact h

theorem computes_write (f : Config → Config) : Computes (write f : InPlace ε) fun c => .ok (f c) where
  report := fun _ => (Traced.ok_andThen _ _).symm
  written := fun _ _ h => Except.ok.inj h

theorem computes_given {x : Traced ε α} {part : α → InPlace ε} {step : α → Config → Traced ε Config}
    (h : ∀ a, Computes (part a) (step a)) :
    Computes (given x part) fun c => x.andThen fun a => step a c where
  report := by
    intro c
    rw [Traced.andThen_assoc]
    cases hx : x.outcome with
    | error cause => simp only [InPlace.given, hx, Traced.andThen_of_error hx]
    | ok a => simp only [InPlace.given, hx, Traced.andThen_of_ok hx, (h a).report]
  written := by
    intro c d hd
    obtain ⟨a, hx, hstep⟩ := Outcome.bind_eq_ok_iff.mp ((Traced.outcome_andThen _ _).symm.trans hd)
    simp only [InPlace.given, hx]
    exact (h a).written c d hstep

theorem Computes.outcome_of_ok (h : Computes p f) {c d : Config} (hf : (f c).outcome = .ok d) :
    (p c).1.outcome = .ok () := by
  rw [h.report, Traced.andThen_of_ok hf]
  rfl

theorem Computes.outcome_of_error (h : Computes p f) {c : Config} {cause : ε}
    (hf : (f c).outcome = .error cause) : (p c).1.outcome = .error cause := by
  rw [h.report, Traced.andThen_of_error hf]

theorem Computes.andThen (hp : Computes p f) (hq : Computes q g) :
    Computes (p.andThen q) fun c => (f c).andThen g where
  report := by
    intro c
    rw [Traced.andThen_assoc]
    cases hf : (f c).outcome with
    | error cause =>
      simp only [InPlace.andThen, hp.outcome_of_error hf]
      rw [hp.report, Traced.andThen_of_error hf, Traced.andThen_of_error hf]
    | ok d =>
      simp only [InPlace.andThen, hp.outcome_of_ok hf]
      rw [hp.report, hp.written c d hf, hq.report, Traced.andThen_assoc]
      simp only [Traced.andThen_of_ok hf, Traced.ok_andThen]
  written := by
    intro c e he
    rw [Traced.outcome_andThen] at he
    obtain ⟨d, hf, hg⟩ := Outcome.bind_eq_ok_iff.mp he
    simp only [InPlace.andThen, hp.outcome_of_ok hf]
    rw [hp.written c d hf]
    exact hq.written d e hg

/-- Parts in sequence compute the fold of what each computes. -/
theorem Computes.sequence {step : Config → α → Traced ε Config} {part : α → InPlace ε}
    (hstep : ∀ a, Computes (part a) fun c => step c a) (todo : List α) :
    Computes (InPlace.sequence (todo.map part)) fun c => todo.foldlM step c := by
  induction todo with
  | nil => exact computes_skip
  | cons a todo ih => exact (hstep a).andThen ih

theorem Computes.onCopy (h : Computes p f) : Computes (onCopy p) f where
  report := by
    intro c
    rw [← h.report]
    unfold InPlace.onCopy
    split <;> rfl
  written := by
    intro c d hf
    unfold InPlace.onCopy
    rw [h.outcome_of_ok hf]
    exact h.written c d hf

theorem Computes.mapError (h : Computes p f) (make : ε → δ) :
    Computes (p.mapError make) fun c => (f c).mapError make where
  report := by
    intro c
    change (p c).1.mapError make = _
    rw [h.report]
    cases hf : (f c).outcome with
    | error cause => simp [Traced.andThen, Traced.mapError, hf, Except.mapError]
    | ok d => simp [Traced.andThen, Traced.mapError, hf, Except.mapError]
  written := fun c d hf => h.written c d (Traced.outcome_mapError_eq_ok_iff.mp hf)

theorem whole_onCopy (p : InPlace ε) : Whole (onCopy p) := by
  intro c cause hfail
  unfold onCopy at hfail ⊢
  split
  · rename_i hok
    rw [hok] at hfail
    exact absurd (hok.symm.trans hfail) (by simp)
  · rfl

theorem Whole.mapError (h : Whole p) (make : ε → δ) : Whole (p.mapError make) := by
  intro c cause hfail
  obtain ⟨cause', hfail', _⟩ := Outcome.mapError_eq_error_iff.mp hfail
  exact h c cause' hfail'

theorem whole_given {x : Traced ε α} {part : α → InPlace ε} (h : ∀ a, Whole (part a)) :
    Whole (given x part) := by
  intro c cause hfail
  unfold given at hfail ⊢
  cases hx : x.outcome with
  | error cause' => rfl
  | ok a =>
    simp only [hx, Traced.andThen_of_ok hx] at hfail
    exact h a c cause hfail

theorem Whole.log_andThen (h : Whole p) (events : List Event) : Whole ((log events).andThen p) :=
  fun c cause hfail => h c cause hfail

/-- Where a failure leaves nothing behind, the end and the settings together are known. -/
theorem Computes.eq_of_whole (h : Computes p f) (hwhole : Whole p) (c : Config) :
    p c = ((f c).andThen fun _ => .ok (), match (f c).outcome with
      | .ok d => d
      | .error _ => c) := by
  apply Prod.ext (h.report c)
  cases hf : (f c).outcome with
  | error cause => exact hwhole c cause (h.outcome_of_error hf)
  | ok d => exact h.written c d hf

end Laws

theorem computes_set (change : Change) : Computes (set change) fun c => c.update change where
  report := by
    intro c
    unfold set Config.update
    cases c.refusal? change with
    | some cause => exact (Traced.fail_andThen cause _).symm
    | none => simp [Traced.andThen]
  written := by
    intro c d h
    obtain ⟨hnone, rfl⟩ := Config.outcome_update_eq_ok_iff.mp h
    simp only [set, hnone]

theorem whole_set (change : Change) : Whole (set change) := by
  intro c cause hfail
  unfold set at hfail ⊢
  split
  · rfl
  · rename_i hnone
    rw [hnone] at hfail
    exact absurd hfail (by simp)

theorem computes_applyOption (options : Options) (s : Setting) :
    Computes (applyOption options s) fun c => Config.applyOption options c s := by
  unfold applyOption Config.applyOption
  cases options.lookup s with
  | none => exact computes_skip
  | some value =>
    dsimp only
    cases hread : Change.read s (Text.trim value) with
    | error cause =>
      apply (computes_fail cause).congr
      intro c
      apply Traced.ext <;> simp [Traced.andThen]
    | ok change =>
      apply (((computes_set change).mapError Failure.refused).andThen (computes_log _)).congr
      intro c
      apply Traced.ext <;> simp [Traced.andThen]

theorem computes_releaseUnaligned (options : Options) : Computes (releaseUnaligned options)
    fun c => .ofExcept (Options.refusing (Config.releaseUnaligned options c)) := by
  unfold releaseUnaligned Config.releaseUnaligned
  cases options.lookup .unaligned with
  | none => exact computes_skip
  | some value =>
    dsimp only
    cases hread : Options.readFlag .unaligned (Text.trim value) with
    | error cause => exact computes_fail _
    | ok on =>
      cases on with
      | true => exact computes_skip
      | false => exact computes_write _

theorem computes_configure (options : Options) :
    Computes (configure options) fun c => c.configure options := by
  have hrest := (computes_releaseUnaligned options).andThen
    (Computes.sequence (computes_applyOption options) Setting.all)
  apply ((computes_log _).andThen hrest.onCopy).congr
  intro c
  exact Traced.andThen_assoc _ _ _

theorem whole_configure (options : Options) : Whole (configure options) :=
  (whole_onCopy _).log_andThen _

/-- Without the copy, a batch that is refused for its unaligned checkpoints would leave its mode. -/
example : (sequence (Setting.all.map (applyOption (.ofPairs
    [("execution.checkpointing.mode", "AT_LEAST_ONCE"),
      ("execution.checkpointing.unaligned", "true")]))) Config.default).2 =
    { Config.default with mode := .atLeastOnce } := by rfl

theorem computes_enableWithMode (interval : Int64) (mode : Mode) :
    Computes (enableWithMode interval mode) fun c =>
      (c.update (.mode mode)).andThen fun d => d.update (.interval interval) :=
  ((computes_set _).andThen (computes_set _)).onCopy

theorem computes_accept (values : Config) : Computes (accept values) fun _ => values.accept :=
  ((computes_write _).andThen (Computes.sequence (fun s => computes_set (values.get s)) _)).congr
    fun _ => Traced.ok_andThen _ _

theorem computes_loadJson (text : String) : Computes (loadJson text) fun _ => Config.ofJson text := by
  have hend (rest : List Char) : Computes
      (if Json.skipSpace rest = [] then skip else fail .malformed : InPlace Json.Error)
      fun c => if Json.skipSpace rest = [] then .ok c else .fail .malformed := by
    split
    · exact computes_skip
    · exact computes_fail _
  apply (computes_given fun read : Snapshot × List Char =>
    ((computes_accept read.1.overlay).mapError _).andThen (hend read.2)).onCopy.congr
  intro c
  simp only [Config.ofJson, Json.readDocument, Config.readJson, Traced.bind_eq, Traced.pure_eq,
    Traced.andThen_assoc, Traced.ok_andThen]

end InPlace

namespace Session
open InPlace

def writeWith (s : Session) (p : InPlace Error) : Traced Error Answer × Session :=
  ((p s.config).1.andThen fun _ => .ok .done, s.withConfig (p s.config).2)

def refusing (p : InPlace Rejection) : InPlace Error := p.mapError fun cause => .setting (.refused cause)

/-- The computation in place by which a step changes settings, if it does. -/
def writing? : Step → Option (InPlace Error)
  | .change change => some (refusing (set change))
  | .mode label =>
    some (refusing (given (.ofExcept (Options.readMode label)) fun mode => set (.mode mode)))
  | .retention label =>
    some (refusing (given (.ofExcept (Options.readRetention label)) fun r => set (.retention r)))
  | .configure options => some (mapError .setting (configure options))
  | .enable interval => some (refusing (set (.interval interval)))
  | .enableWithMode interval label =>
    some (refusing (given (.ofExcept (Options.readMode label)) (enableWithMode interval)))
  | .loadJson text => some (mapError .json (loadJson text))
  | .fresh _ | .save | .restore _ | .barrier _ | .options | .optionsRoundTrip | .json | .job
  | .equals _ => none

/-- Takes a step in place: what it reports, and the session as it leaves it. -/
def perform (s : Session) (step : Step) : Traced Error Answer × Session :=
  match writing? step with
  | some p => s.writeWith p
  | none => ((s.take step).andThen fun (_, answer) => .ok answer, s.next step)

/-- A step that writes to settings does in place what it does otherwise. -/
structure Performs (s : Session) (step : Step) (p : InPlace Error) : Prop where
  whole : Whole p
  take : ∃ f, Computes p f ∧ s.take step = s.onConfig (f s.config)

/-- To set an environment with other settings is to set the settings. -/
theorem rejecting_onConfig (s : Session) (f : Config → Traced Rejection Config) :
    ((rejecting (s.environment.onConfig f)).andThen fun e =>
        .ok ({ s with environment := e }, Answer.done)) =
      s.onConfig (rejecting (f s.config)) := by
  change ((rejecting ((f s.config).andThen fun c => .ok { s.environment with config := c })).andThen
    _) = (rejecting (f s.config)).andThen _
  cases h : (f s.config).outcome <;>
    simp [rejecting, Traced.andThen, Traced.mapError, h, Except.mapError, withConfig, Traced.ok]

theorem take_enable (s : Session) (ms : Int64) :
    s.take (.enable ms) = s.onConfig (rejecting (s.config.update (.interval ms))) :=
  rejecting_onConfig s _

theorem take_enableWithMode (s : Session) (ms : Int64) (label : String) :
    s.take (.enableWithMode ms label) = s.onConfig (rejecting
      ((Traced.ofExcept (Options.readMode label)).andThen fun mode =>
        (s.config.update (.mode mode)).andThen fun d => d.update (.interval ms))) := by
  rw [take]
  cases Options.readMode label with
  | error cause => rfl
  | ok mode => exact rejecting_onConfig s _

theorem performs_of_writing {s : Session} {step : Step} {p : InPlace Error}
    (h : writing? step = some p) : Performs s step p := by
  cases step <;> simp only [writing?, Option.some.injEq, reduceCtorEq] at h <;> subst h
  case change change =>
    exact ⟨(whole_set _).mapError _, _, (computes_set _).mapError _, rfl⟩
  case mode label =>
    exact ⟨(whole_given fun _ => whole_set _).mapError _, _,
      (computes_given fun _ => computes_set _).mapError _, rfl⟩
  case retention label =>
    exact ⟨(whole_given fun _ => whole_set _).mapError _, _,
      (computes_given fun _ => computes_set _).mapError _, rfl⟩
  case configure options =>
    exact ⟨(whole_configure _).mapError _, _, (computes_configure _).mapError _, rfl⟩
  case enable interval =>
    exact ⟨(whole_set _).mapError _, _, (computes_set _).mapError _, s.take_enable interval⟩
  case enableWithMode interval label =>
    exact ⟨(whole_given fun _ => whole_onCopy _).mapError _, _,
      (computes_given fun mode => computes_enableWithMode interval mode).mapError _,
      s.take_enableWithMode interval label⟩
  case loadJson text =>
    exact ⟨(whole_onCopy _).mapError _, _, (computes_loadJson _).mapError _, rfl⟩

end Session
end Checkpointing
