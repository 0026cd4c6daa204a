import Checkpointing.Proofs.Session.InPlace

/-!
# What acceptance depends on

Two sessions that have the same mode and agree on unaligned checkpoints and approximate local recovery
cannot be told apart by what they accept: the same step, with other blanks around the texts of options and
with other foreign options, is done in both or refused in both for the same cause.
-/

namespace Checkpointing
set_option autoImplicit false

/-- Two computations both give values, which are related, or both fail in the same way. -/
inductive Outcome.Related {ε α β : Type} (r : α → β → Prop) : Except ε α → Except ε β → Prop where
  | ok {a : α} {b : β} (h : r a b) : Related r (.ok a) (.ok b)
  | error (cause : ε) : Related r (.error cause) (.error cause)

namespace Outcome.Related
variable {ε δ α β γ : Type} {r : α → β → Prop} {x : Except ε α} {y : Except ε β}

theorem refl {r : α → α → Prop} (hr : ∀ a, r a a) (x : Except ε α) : Related r x x := by
  cases x with
  | error cause => exact .error cause
  | ok a => exact .ok (hr a)

/-- What does not depend on either side gives the same value on both. -/
theorem same_bind {α' β' : Type} {r' : α' → β' → Prop} (x : Except ε γ) {f : γ → Except ε α'}
    {g : γ → Except ε β'} (hstep : ∀ a, Related r' (f a) (g a)) :
    Related r' (x >>= f) (x >>= g) := by
  cases x with
  | error cause => exact .error cause
  | ok a => exact hstep a

theorem bind {α' β' : Type} {r' : α' → β' → Prop} {f : α → Except ε α'} {g : β → Except ε β'}
    (h : Related r x y) (hstep : ∀ a b, r a b → Related r' (f a) (g b)) :
    Related r' (x >>= f) (y >>= g) := by
  cases h with
  | error cause => exact .error cause
  | ok hr => exact hstep _ _ hr

theorem mapError (h : Related r x y) (f : ε → δ) : Related r (x.mapError f) (y.mapError f) := by
  cases h with
  | error cause => exact .error (f cause)
  | ok hr => exact .ok hr

theorem foldlM {f : α → γ → Except ε α} {g : β → γ → Except ε β}
    (hstep : ∀ a b c, r a b → Related r (f a c) (g b c)) (todo : List γ) {a : α} {b : β}
    (h : r a b) : Related r (todo.foldlM f a) (todo.foldlM g b) := by
  induction todo generalizing a b with
  | nil => exact .ok h
  | cons c todo ih => exact (hstep a b c h).bind fun _ _ => ih

theorem eq {x y : Except ε α} (h : Related (· = ·) x y) : x = y := by
  cases h with
  | error cause => rfl
  | ok hr => rw [hr]

end Outcome.Related

open Outcome (Related)

namespace Config
variable {r : Config → Config → Prop} {c d : Config} {options options' : Options}

/-- The settings that others are checked against are the same. -/
structure Alike (c d : Config) : Prop where
  mode : c.mode = d.mode
  unaligned : c.unaligned = d.unaligned
  approximateRecovery : c.approximateRecovery = d.approximateRecovery

/-- Related settings refuse the same changes and are related after all others. -/
structure Respects (r : Config → Config → Prop) : Prop where
  refusal : ∀ {c d}, r c d → ∀ change, c.refusal? change = d.refusal? change
  set : ∀ {c d}, r c d → ∀ change, r (c.set change) (d.set change)
  refl : ∀ c, r c c

theorem respects_eq : Respects (· = ·) where
  refusal := by
    rintro c _ rfl change
    rfl
  set := by
    rintro c _ rfl change
    rfl
  refl := fun _ => rfl

theorem respects_alike : Respects Alike where
  refusal := by
    rintro c d ⟨hmode, hunaligned, hrecovery⟩ change
    cases change <;> simp only [refusal?, hmode, hunaligned, hrecovery]
  set := by
    rintro c d ⟨hmode, hunaligned, hrecovery⟩ change
    cases change <;> constructor <;> simp only [Config.set] <;> assumption
  refl := fun _ => ⟨rfl, rfl, rfl⟩

theorem Respects.update (hr : Respects r) (h : r c d) (change : Change) :
    Related r (c.update change).outcome (d.update change).outcome := by
  unfold Config.update
  rw [hr.refusal h]
  cases d.refusal? change with
  | some cause => exact .error cause
  | none => exact .ok (hr.set h change)

/-- The options of settings have the same texts, blanks around them left out. -/
def SameTexts (options options' : Options) : Prop :=
  ∀ s, (options.lookup s).map Text.trim = (options'.lookup s).map Text.trim

theorem Respects.applyOption (hr : Respects r) (htexts : SameTexts options options') (h : r c d)
    (s : Setting) :
    Related r (applyOption options c s).outcome (applyOption options' d s).outcome := by
  have hs := htexts s
  unfold Config.applyOption
  cases hlookup : options.lookup s <;> cases hlookup' : options'.lookup s <;>
    simp only [hlookup, hlookup', Option.map_none, Option.map_some, reduceCtorEq, Option.some.injEq]
      at hs
  · exact .ok h
  · rename_i value value'
    simp only [Traced.bind_eq, Traced.outcome_andThen, Traced.outcome_ofExcept,
      Traced.outcome_mapError, hs]
    refine Related.same_bind _ fun change => ((hr.update h change).mapError _).bind ?_
    exact fun _ _ => .ok

theorem Respects.releaseUnaligned (hr : Respects r) (htexts : SameTexts options options') (h : r c d) :
    Related r (releaseUnaligned options c) (releaseUnaligned options' d) := by
  have hs := htexts .unaligned
  unfold Config.releaseUnaligned
  cases hlookup : options.lookup .unaligned <;> cases hlookup' : options'.lookup .unaligned <;>
    simp only [hlookup, hlookup', Option.map_none, Option.map_some, reduceCtorEq, Option.some.injEq]
      at hs
  · exact .ok h
  · simp only [hs]
    refine Related.same_bind _ fun on => ?_
    cases on with
    | true => exact .ok h
    | false => exact .ok (hr.set h (.unaligned false))

theorem Respects.configure (hr : Respects r) (htexts : SameTexts options options') (h : r c d) :
    Related r (c.configure options).outcome (d.configure options').outcome := by
  simp only [Config.configure, Traced.bind_eq, Traced.outcome_andThen, Traced.outcome_log,
    Traced.outcome_ofExcept, Traced.outcome_foldlM]
  refine ((hr.releaseUnaligned htexts h).mapError _).bind ?_
  intro c' d' h'
  exact Related.foldlM (fun _ _ s hcd => hr.applyOption htexts hcd s) _ h'

end Config

namespace Session
open Config (Alike Respects SameTexts)
variable {r : Config → Config → Prop} {s s' : Session} {step step' : Step}

def result (s : Session) (step : Step) : Except Error Config :=
  (s.take step).outcome.map fun (after, _) => after.config

/-- The same step that changes settings, or batches with the same texts. -/
inductive Corresponds : Step → Step → Prop where
  | same {step : Step} (h : (writing? step).isSome) : Corresponds step step
  | configure {options options' : Options} (h : SameTexts options options') :
      Corresponds (.configure options) (.configure options')

theorem result_of_take {x : Traced Error Config} (h : s.take step = s.onConfig x) :
    s.result step = x.outcome := by
  rw [result, h, onConfig, Traced.bind_eq, Traced.outcome_andThen]
  cases x.outcome <;> rfl

theorem related_rejecting {α : Type} (hr : Respects r) {c d : Config} (h : r c d)
    (x : Except Rejection α) (make : α → Change) :
    Related r (rejecting ((Traced.ofExcept x).andThen fun a => c.update (make a))).outcome
      (rejecting ((Traced.ofExcept x).andThen fun a => d.update (make a))).outcome := by
  simp only [rejecting, Traced.outcome_mapError, Traced.outcome_andThen, Traced.outcome_ofExcept]
  refine Related.mapError ?_ _
  exact Related.same_bind x fun a => hr.update h (make a)

theorem related_result_configure (hr : Respects r) (h : r s.config s'.config)
    {options options' : Options} (htexts : SameTexts options options') :
    Related r (s.result (.configure options)) (s'.result (.configure options')) := by
  rw [result_of_take rfl, result_of_take rfl]
  exact (hr.configure htexts h).mapError _

theorem related_result_same (hr : Respects r) (h : r s.config s'.config)
    (hstep : (writing? step).isSome) : Related r (s.result step) (s'.result step) := by
  cases step with
  | change change =>
    rw [result_of_take rfl, result_of_take rfl]
    exact (hr.update h change).mapError _
  | mode label =>
    rw [result_of_take rfl, result_of_take rfl]
    exact related_rejecting hr h _ .mode
  | retention label =>
    rw [result_of_take rfl, result_of_take rfl]
    exact related_rejecting hr h _ .retention
  | configure options => exact related_result_configure hr h fun _ => rfl
  | enable ms =>
    rw [result_of_take (s.take_enable ms), result_of_take (s'.take_enable ms)]
    exact (hr.update h (.interval ms)).mapError _
  | enableWithMode ms label =>
    rw [result_of_take (s.take_enableWithMode ms label),
      result_of_take (s'.take_enableWithMode ms label)]
    simp only [rejecting, Traced.outcome_mapError, Traced.outcome_andThen, Traced.outcome_ofExcept]
    refine Related.mapError (Related.same_bind _ fun mode => ?_) _
    exact (hr.update h (.mode mode)).bind fun _ _ h' => hr.update h' (.interval ms)
  | loadJson text =>
    rw [result_of_take rfl, result_of_take rfl]
    exact Related.refl hr.refl _
  | fresh | save | restore | barrier | options | optionsRoundTrip | json | job | equals =>
    exact absurd hstep (by simp [writing?])

theorem related_result (hr : Respects r) (h : r s.config s'.config) (hsteps : Corresponds step step') :
    Related r (s.result step) (s'.result step') := by
  cases hsteps with
  | same hstep => exact related_result_same hr h hstep
  | configure htexts => exact related_result_configure hr h htexts

theorem config_next (s : Session) (step : Step) :
    (s.next step).config = match s.result step with
      | .ok c => c
      | .error _ => s.config := by
  rw [next, result]
  cases (s.take step).outcome <;> rfl

theorem related_config_next (hr : Respects r) (h : r s.config s'.config)
    (hsteps : Corresponds step step') : r (s.next step).config (s'.next step').config := by
  rw [config_next, config_next]
  cases hres : s.result step <;> cases hres' : s'.result step'
  all_goals
    have hrel := related_result hr h hsteps
    rw [hres, hres'] at hrel
    cases hrel
  · exact h
  · assumption

/-- What is seen of a run from outside: which of its steps are done, and why the others are refused. -/
def verdicts (s : Session) : List Step → List (Except Error Unit)
  | [] => []
  | step :: steps => (s.result step).map (fun _ => ()) :: (s.next step).verdicts steps

theorem verdict_eq (h : Related r (s.result step) (s'.result step')) :
    (s.result step).map (fun _ => ()) = (s'.result step').map fun _ => () := by
  cases hres : s.result step <;> cases hres' : s'.result step' <;> rw [hres, hres'] at h <;> cases h
  · rfl
  · rfl

theorem verdicts_eq {steps steps' : List Step} (hr : Respects r) (h : r s.config s'.config)
    (hsteps : List.Forall₂ Corresponds steps steps') : s.verdicts steps = s'.verdicts steps' := by
  induction hsteps generalizing s s' with
  | nil => rfl
  | cons hstep _ ih =>
    rw [verdicts, verdicts, verdict_eq (related_result hr h hstep),
      ih (related_config_next hr h hstep)]

/-- Acceptance depends on the three settings that are checked against each other and on the texts of the
settings' options, at every step of a run. -/
theorem acceptance_depends_on_alike (s s' : Session) (h : Alike s.config s'.config) :
    (∀ step step', Corresponds step step' →
      Related Alike (s.result step) (s'.result step') ∧
        (s.config = s'.config → s.result step = s'.result step')) ∧
    ∀ steps steps', List.Forall₂ Corresponds steps steps' → s.verdicts steps = s'.verdicts steps' := by
  refine ⟨?_, fun _ _ => verdicts_eq Config.respects_alike h⟩
  intro step step' hsteps
  exact ⟨related_result Config.respects_alike h hsteps,
    fun heq => (related_result Config.respects_eq heq hsteps).eq⟩

def paddedMode : Options := .ofPairs [("execution.checkpointing.mode", " at-least-once\t")]

/-- The same text but for the blanks, among keys that are passed over. -/
def plainMode : Options :=
  .ofPairs [("execution.checkpointing.mode", "at-least-once"),
    ("execution.checkpointing.modes", "none"), ("pipeline.name", "orders")]

def everyFive : Session :=
  (start "orders").withConfig { Config.default with interval := 5, minPause := 7 }

theorem acceptance_depends_on_alike_between_blanks :
    Alike (start "orders").config everyFive.config ∧
      Corresponds (.configure paddedMode) (.configure plainMode) ∧
      Related Alike ((start "orders").result (.configure paddedMode))
        (everyFive.result (.configure plainMode)) := by
  have halike : Alike (start "orders").config everyFive.config := ⟨rfl, rfl, rfl⟩
  have hsteps : Corresponds (.configure paddedMode) (.configure plainMode) :=
    .configure fun s => by cases s <;> rfl
  exact ⟨halike, hsteps, ((acceptance_depends_on_alike _ _ halike).1 _ _ hsteps).1⟩

end Session
end Checkpointing
