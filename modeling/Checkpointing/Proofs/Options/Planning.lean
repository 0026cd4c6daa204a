import Checkpointing.Proofs.Environment
import Checkpointing.Proofs.Options.Merging
import Checkpointing.Proofs.Options.Rendering

/-!
# Planned environments

What a plan builds depends on the last value of each option and on the last interval and mode that were
named. These are applied after the options; where that goes well, one batch of all of them would have done
the same. The converse fails, for options that clash are refused before a mode that was named could settle
the matter.
-/

namespace Checkpointing
set_option autoImplicit false

namespace Plan
variable {p : Plan} {e : Environment}

def ofCalls (name : String) (calls : List Call) : Plan := calls.foldl note (start name)

namespace Call

def interval? : Call → Option Int64
  | .interval ms => some ms
  | .mode _ | .option _ _ | .options _ => none

def mode? : Call → Option Mode
  | .mode m => some m
  | .interval _ | .option _ _ | .options _ => none

def value? (key : String) : Call → Option String
  | .option key' value => if key' = key then some value else none
  | .options batch => batch[key]?
  | .interval _ | .mode _ => none

end Call

def lastInterval? (calls : List Call) : Option Int64 := calls.reverse.findSome? Call.interval?

def lastMode? (calls : List Call) : Option Mode := calls.reverse.findSome? Call.mode?

def lastValue? (calls : List Call) (key : String) : Option String :=
  calls.reverse.findSome? (Call.value? key)

/-- What a call says of a matter replaces what was said of it before. -/
theorem foldl_note {α : Type} (view : Plan → Option α) (said : Call → Option α)
    (hnote : ∀ p call, view (p.note call) = (said call).or (view p)) (calls : List Call) (p : Plan) :
    view (calls.foldl note p) = (calls.reverse.findSome? said).or (view p) := by
  induction calls generalizing p with
  | nil => rfl
  | cons call calls ih =>
    rw [List.foldl_cons, ih, hnote, List.reverse_cons, List.findSome?_append,
      List.findSome?_singleton, Option.or_assoc]

theorem name_foldl_note (calls : List Call) (p : Plan) : (calls.foldl note p).name = p.name := by
  induction calls generalizing p with
  | nil => rfl
  | cons call calls ih =>
    rw [List.foldl_cons, ih]
    cases call <;> rfl

section OfCalls
variable (name : String) (calls : List Call)

theorem interval_ofCalls : (ofCalls name calls).interval = lastInterval? calls := by
  have h := foldl_note Plan.interval Call.interval? ?_ calls (start name)
  · exact h.trans Option.or_none
  · intro p call
    cases call <;> rfl

theorem mode_ofCalls : (ofCalls name calls).mode = lastMode? calls := by
  have h := foldl_note Plan.mode Call.mode? ?_ calls (start name)
  · exact h.trans Option.or_none
  · intro p call
    cases call <;> rfl

theorem getElem?_ofCalls (key : String) : (ofCalls name calls).options[key]? = lastValue? calls key := by
  have h := foldl_note (·.options[key]?) (Call.value? key) ?_ calls (start name)
  · have hempty : (∅ : Options)[key]? = none := Std.TreeMap.getElem?_emptyc
    exact h.trans ((congrArg _ hempty).trans Option.or_none)
  · intro p call
    cases call with
    | interval ms => rfl
    | mode mode => rfl
    | option key' value =>
      change (p.options.insert key' value)[key]? = _
      rw [Std.TreeMap.getElem?_insert]
      simp only [Std.LawfulEqCmp.compare_eq_iff_eq, Call.value?]
      split <;> rfl
    | options options => exact Options.getElem?_merge p.options options key

end OfCalls

structure SameLast (calls calls' : List Call) : Prop where
  interval : lastInterval? calls = lastInterval? calls'
  mode : lastMode? calls = lastMode? calls'
  value : ∀ key, lastValue? calls key = lastValue? calls' key

/-- The changes that were named apart from the options, in the order in which they are made. -/
def explicit (p : Plan) : List Change :=
  (p.mode.map .mode).toList ++ (p.interval.map .interval).toList

/-- The options with those of the changes that were named written over them. -/
def asOptions (p : Plan) : Options := p.explicit.foldl Options.write p.options

/-- The mode and the interval are checked against what the options give, not against each other. -/
theorem outcome_build_eq_ok_iff : p.build.outcome = .ok e ↔
    ∃ c, (Config.ofOptions p.options).outcome = .ok c ∧
      (∀ mode, p.mode = some mode → c.refusal? (.mode mode) = none) ∧
      (∀ ms, p.interval = some ms → c.refusal? (.interval ms) = none) ∧
      e = ⟨p.name, p.explicit.foldl Config.set c⟩ := by
  simp only [build, Traced.outcome_bind_eq_ok_iff, Environment.configure,
    Environment.outcome_onConfig_eq_ok_iff, outcome_makeNamed_eq_ok_iff, explicit,
    List.foldl_append]
  constructor
  · rintro ⟨_, ⟨c, hc, rfl⟩, _, ⟨hmode, rfl⟩, hinterval, rfl⟩
    exact ⟨c, hc, hmode, hinterval, rfl⟩
  · rintro ⟨c, hc, hmode, hinterval, rfl⟩
    exact ⟨_, ⟨c, hc, rfl⟩, _, ⟨hmode, rfl⟩, hinterval, rfl⟩

/-- What a plan builds depends on its options through their texts for the settings. -/
theorem outcome_build_congr {q : Plan} (hname : p.name = q.name) (hinterval : p.interval = q.interval)
    (hmode : p.mode = q.mode) (hoptions : ∀ s, p.options.lookup s = q.options.lookup s) :
    p.build.outcome = q.build.outcome := by
  have hconfigure : ((Environment.fresh p.name).configure p.options).outcome =
      ((Environment.fresh q.name).configure q.options).outcome := by
    rw [hname]
    exact Environment.outcome_onConfig_congr (Config.outcome_configure_congr hoptions .default)
  rw [build, build, hinterval, hmode]
  simp only [Traced.bind_eq, Traced.outcome_andThen, hconfigure]

end Plan

namespace Config
variable {options : Options} {c d : Config} {change : Change}

/-- A change that is made after a batch could have been one of its options. -/
theorem Replaces.write (h : Replaces options c d) (hnone : d.refusal? change = none) :
    Replaces (options.write change) c (d.set change) where
  given s value hvalue := by
    rw [Options.lookup_write] at hvalue
    rw [get_set]
    split at hvalue
    · rename_i hs
      obtain rfl := Option.some.inj hvalue
      have hrange := (refusal?_eq_none_iff.mp hnone).1
      rw [if_pos hs]
      exact ⟨Change.denotes_trim_text hrange.nonneg, hrange⟩
    · rename_i hs
      rw [if_neg hs]
      exact h.given s value hvalue
  kept s hs := by
    rw [Options.lookup_write] at hs
    rw [get_set]
    split at hs
    · exact absurd hs (by simp)
    · rename_i hne
      rw [if_neg hne]
      exact h.kept s hs

end Config

namespace Plan
variable {p : Plan} {e : Environment}

theorem outcome_ofOptions_asOptions (h : p.build.outcome = .ok e) :
    (Config.ofOptions p.asOptions).outcome = .ok e.config := by
  obtain ⟨c, hc, hmode, hinterval, rfl⟩ := outcome_build_eq_ok_iff.mp h
  have hreplaces := Config.replaces_of_outcome_configure hc
  have hcoherent := Config.coherent_default.configure hc
  suffices hall : Config.Replaces p.asOptions .default (p.explicit.foldl Config.set c) ∧
      (p.explicit.foldl Config.set c).Coherent from hall.1.outcome_configure hall.2
  obtain ⟨name, interval, mode, options⟩ := p
  cases mode with
  | none =>
    cases interval with
    | none => exact ⟨hreplaces, hcoherent⟩
    | some ms => exact ⟨hreplaces.write (hinterval ms rfl), hcoherent.set (hinterval ms rfl)⟩
  | some mode =>
    have hafter := hreplaces.write (hmode mode rfl)
    have hcoherent' := hcoherent.set (hmode mode rfl)
    cases interval with
    | none => exact ⟨hafter, hcoherent'⟩
    | some ms =>
      have hnone : (c.set (.mode mode)).refusal? (.interval ms) = none := hinterval ms rfl
      exact ⟨hafter.write hnone, hcoherent'.set hnone⟩

theorem refusal?_mode_eq_none_iff {c : Config} {mode : Mode} :
    c.refusal? (.mode mode) = none ↔ mode = .exactlyOnce ∨ c.unaligned = false := by
  rw [Config.refusal?_eq_none_iff]
  change True ∧ (c.unaligned = true → mode = .exactlyOnce) ↔ _
  cases c.unaligned <;> simp

theorem refusal?_interval_eq_none_iff {c : Config} {ms : Int64} :
    c.refusal? (.interval ms) = none ↔ 0 < ms := by
  rw [Config.refusal?_eq_none_iff]
  exact and_iff_left trivial

/-- A plan is built from the last word on each matter. It is built if the options are accepted and
neither the mode nor the interval is refused after them, and then one batch would have done. -/
theorem build_depends_on_last_values (name : String) (calls : List Call) :
    ((ofCalls name calls).interval = lastInterval? calls ∧
      (ofCalls name calls).mode = lastMode? calls ∧
      ∀ key, (ofCalls name calls).options[key]? = lastValue? calls key) ∧
    (∀ calls', SameLast calls calls' →
      (ofCalls name calls).build.outcome = (ofCalls name calls').build.outcome) ∧
    ((∃ e, (ofCalls name calls).build.outcome = .ok e) ↔
      ∃ c, (Config.ofOptions (ofCalls name calls).options).outcome = .ok c ∧
        (∀ mode, lastMode? calls = some mode → mode = .exactlyOnce ∨ c.unaligned = false) ∧
        ∀ ms, lastInterval? calls = some ms → 0 < ms) ∧
    ∀ e, (ofCalls name calls).build.outcome = .ok e →
      (Config.ofOptions (ofCalls name calls).asOptions).outcome = .ok e.config := by
  have hinterval := interval_ofCalls name calls
  have hmode := mode_ofCalls name calls
  refine ⟨⟨hinterval, hmode, getElem?_ofCalls name calls⟩, ?_, ?_, ?_⟩
  · intro calls' hlast
    apply outcome_build_congr
    · rw [ofCalls, ofCalls, name_foldl_note, name_foldl_note]
    · rw [hinterval, interval_ofCalls, hlast.interval]
    · rw [hmode, mode_ofCalls, hlast.mode]
    · intro s
      rw [Options.lookup, Options.lookup, getElem?_ofCalls, getElem?_ofCalls, hlast.value]
  · simp only [outcome_build_eq_ok_iff, hinterval, hmode, refusal?_mode_eq_none_iff,
      refusal?_interval_eq_none_iff]
    constructor
    · rintro ⟨_, c, hc, hm, hi, _⟩
      exact ⟨c, hc, hm, hi⟩
    · rintro ⟨c, hc, hm, hi⟩
      exact ⟨_, c, hc, hm, hi, rfl⟩
  · exact fun e => outcome_ofOptions_asOptions

def waveringCalls : List Call :=
  [.mode .exactlyOnce, .option "execution.checkpointing.timeout" "1 min", .mode .atLeastOnce,
    .interval 5, .option "execution.checkpointing.timeout" "2 min"]

def resoluteCalls : List Call :=
  [.interval 5, .options (.ofPairs [("execution.checkpointing.timeout", "2 min")]), .mode .atLeastOnce]

theorem build_depends_on_last_values_reordered :
    SameLast waveringCalls resoluteCalls ∧
      (ofCalls "orders" waveringCalls).build.outcome =
        (ofCalls "orders" resoluteCalls).build.outcome := by
  have hlast : SameLast waveringCalls resoluteCalls := by
    refine ⟨rfl, rfl, fun key => ?_⟩
    have hsingle := Options.getElem?_single ("execution.checkpointing.timeout", "2 min") key
    rw [Options.single] at hsingle
    simp only [waveringCalls, resoluteCalls, lastValue?, List.reverse_cons, List.reverse_nil, List.nil_append, List.cons_append,
      List.findSome?_cons, List.findSome?_nil, Call.value?, hsingle]
    by_cases hkey : "execution.checkpointing.timeout" = key
    · simp only [if_pos hkey]
    · simp only [if_neg hkey]
  exact ⟨hlast, (build_depends_on_last_values "orders" _).2.1 _ hlast⟩

/-- The options clash, but not as one batch with the mode that was named. -/
example :
    let p := ofCalls "orders"
      [.option "execution.checkpointing.mode" "AT_LEAST_ONCE",
        .option "execution.checkpointing.unaligned" "true", .mode .exactlyOnce]
    p.build.outcome = .error (.refused (.unalignedInMode .atLeastOnce)) ∧
      (Config.ofOptions p.asOptions).outcome = .ok { Config.default with unaligned := true } := by
  decide +kernel

end Plan
end Checkpointing
