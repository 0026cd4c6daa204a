import Checkpointing.Proofs.Options.FirstFailure
import Checkpointing.Proofs.Options.Rendering
import Checkpointing.Proofs.Options.Single
import Checkpointing.Proofs.Session.Thinning

/-!
# Setters and options

Each setting can be changed by its setter and by an option with the text of the value. The two ways lead
to the same session or are both refused, for the same setting. An interval and a mode that are set
together agree with a batch of these two options, though the batch comes to the interval first.
-/

namespace Checkpointing
set_option autoImplicit false

namespace Change

theorem read_trim_text {change : Change} (h : ∀ ms, change = .interval ms → 0 ≤ ms) :
    read change.setting (Text.trim change.text) = .ok change :=
  read_eq_ok_iff.mpr ⟨rfl, denotes_trim_text h⟩

theorem spanRead_of_minus {text : String} {cs : List Char} (h : text.toList = '-' :: cs) :
    Span.read text = .error (.refused (.numberExpected 0)) := by
  rw [Span.read, h]
  rfl

/-- The minus sign is neither in a numeral of 64 bits nor in a span text. -/
theorem refused_of_neg {ms : Int64} (h : ms < 0) :
    ∃ cause, read .interval (Text.trim (toString ms)) = .error (.refused cause) := by
  have hneg : ms.toInt < 0 := Int64.lt_iff_toInt_lt.mp h
  have htext : toString ms = toString ms.toInt := rfl
  have hchars := Numeral.toList_toString_int ms.toInt
  rw [if_pos hneg] at hchars
  rw [htext, Text.trim_toString_int]
  cases hread : read .interval (toString ms.toInt) with
  | ok change =>
    obtain ⟨hsetting, hdenotes⟩ := read_eq_ok_iff.mp hread
    cases change <;> cases hsetting
    obtain ⟨_, d, hd, _⟩ := hdenotes
    rcases hd with ⟨n, ⟨ds, hds, hcs | hcs, _⟩, _⟩ | ⟨_, hspan⟩
    · rw [hchars] at hcs
      exact absurd (hds.2 '-' (hcs ▸ List.mem_cons_self)) (by decide)
    · rw [hchars] at hcs
      exact absurd (List.cons.inj hcs).1 (by decide)
    · rw [spanRead_of_minus hchars] at hspan
      exact absurd hspan (by simp)
  | error failure =>
    cases failure with
    | refused cause => exact ⟨cause, rfl⟩
    | overflow =>
      have hspan := Span.read_eq_overflow_iff.mpr (read_eq_overflow_iff.mp hread).2.2
      rw [spanRead_of_minus hchars] at hspan
      exact absurd hspan (by simp)

end Change

namespace Config
variable {c : Config} {change : Change}

theorem applyText_text (c : Config) (change : Change)
    (h : ∀ ms, change = .interval ms → 0 ≤ ms) :
    c.applyText change.setting change.text = (c.update change).outcome.mapError .refused := by
  rw [applyText, Change.read_trim_text h, Outcome.ok_bind]

theorem applyText_of_neg {ms : Int64} (h : ms < 0) (c : Config) :
    ∃ cause, c.applyText .interval (toString ms) = .error (.refused cause) := by
  obtain ⟨cause, hread⟩ := Change.refused_of_neg h
  exact ⟨cause, Outcome.bind_eq_error_iff.mpr (.inl hread)⟩

theorem lookup_single_option (change : Change) (s : Setting) :
    (Options.single change.option).lookup s =
      if s = change.setting then some change.text else none :=
  Options.lookup_single change.setting change.text s

theorem outcome_configure_option (h : ∀ ms, change = .interval ms → 0 ≤ ms) (c : Config) :
    (c.configure (.single change.option)).outcome =
      (c.update change).outcome.mapError .refused := by
  rw [Change.option, outcome_configure_single, applyText_text c change h]

theorem outcome_configure_option_of_neg {ms : Int64} (h : ms < 0) (c : Config) :
    ∃ cause, (c.configure (.single (Change.interval ms).option)).outcome =
      .error (.refused cause) := by
  obtain ⟨cause, happly⟩ := applyText_of_neg h c
  exact ⟨cause, (outcome_configure_single c .interval (toString ms)).trans happly⟩

section IntervalAndMode
variable {ms : Int64} {mode : Mode}

theorem lookup_interval_mode (ms : Int64) (mode : Mode) (s : Setting) :
    (Options.ofPairs [(Change.interval ms).option, (Change.mode mode).option]).lookup s =
      if s = .mode then some mode.name else if s = .interval then some (toString ms) else none := by
  have hpairs : Options.ofPairs [(Change.interval ms).option, (Change.mode mode).option] =
      (Options.single (Change.interval ms).option).write (.mode mode) := by
    rw [Options.ofPairs, Std.TreeMap.ofList_cons, Std.TreeMap.insertMany_list_singleton,
      Options.single, Options.ofPairs, Std.TreeMap.ofList_singleton, Options.write]
  rw [hpairs, Options.lookup_write, lookup_single_option]
  rfl

theorem optionSettings_interval_mode (ms : Int64) (mode : Mode) :
    optionSettings (.ofPairs [(Change.interval ms).option, (Change.mode mode).option]) =
      [.interval, .mode] := by
  have hfilter : ∀ s ∈ Setting.all,
      ((Options.ofPairs [(Change.interval ms).option, (Change.mode mode).option]).lookup s).isSome =
        decide (s = .mode ∨ s = .interval) := by
    intro s _
    rw [lookup_interval_mode]
    by_cases hm : s = .mode
    · simp [hm]
    · by_cases hi : s = .interval <;> simp [hm, hi]
  rw [optionSettings, List.filter_congr hfilter]
  rfl

/-- The interval is applied before the mode. -/
theorem outcome_configure_interval_mode (c : Config) (ms : Int64) (mode : Mode) :
    (c.configure (.ofPairs [(Change.interval ms).option, (Change.mode mode).option])).outcome = (do
      let d ← c.applyText .interval (toString ms)
      d.applyText .mode mode.name) := by
  have hlookup := lookup_interval_mode ms mode
  have hrelease : releaseUnaligned
      (.ofPairs [(Change.interval ms).option, (Change.mode mode).option]) c = .ok c :=
    releaseUnaligned_eq_ok_iff.mpr (.inl ⟨hlookup .unaligned, rfl⟩)
  rw [outcome_configure_of_release hrelease, optionSettings_interval_mode]
  simp only [List.foldlM_cons, List.foldlM_nil, bind_pure, outcome_applyOption (hlookup .interval),
    outcome_applyOption (hlookup .mode)]

theorem outcome_update_of_refusal_ne_none (h : c.refusal? change ≠ none) :
    ∃ cause, (c.update change).outcome = .error cause := by
  obtain ⟨cause, hcause⟩ := Option.ne_none_iff_exists'.mp h
  exact ⟨cause, congrArg Traced.outcome (update_of_refusal hcause)⟩

/-- Neither of the two is checked against the other, so either may come first. -/
theorem refusal?_set_interval (c : Config) (ms : Int64) (mode : Mode) :
    (c.set (.interval ms)).refusal? (.mode mode) = c.refusal? (.mode mode) ∧
      (c.set (.mode mode)).refusal? (.interval ms) = c.refusal? (.interval ms) :=
  ⟨rfl, rfl⟩

theorem outcome_update_mode_interval (hmode : c.refusal? (.mode mode) = none)
    (hinterval : c.refusal? (.interval ms) = none) :
    ((c.update (.mode mode)).andThen fun d => d.update (.interval ms)).outcome =
      .ok ((c.set (.mode mode)).set (.interval ms)) := by
  rw [Traced.outcome_andThen, outcome_update_of_refusal_eq_none hmode]
  exact outcome_update_of_refusal_eq_none ((refusal?_set_interval c ms mode).2.trans hinterval)

theorem refused_update_mode_interval
    (h : ¬(c.refusal? (.mode mode) = none ∧ c.refusal? (.interval ms) = none)) :
    ∃ cause, ((c.update (.mode mode)).andThen fun d => d.update (.interval ms)).outcome =
      .error cause := by
  rw [Traced.outcome_andThen]
  by_cases hmode : c.refusal? (.mode mode) = none
  · have hinterval : (c.set (.mode mode)).refusal? (.interval ms) ≠ none := fun hi => h ⟨hmode, hi⟩
    obtain ⟨cause, hcause⟩ := outcome_update_of_refusal_ne_none hinterval
    rw [outcome_update_of_refusal_eq_none hmode]
    exact ⟨cause, hcause⟩
  · obtain ⟨cause, hcause⟩ := outcome_update_of_refusal_ne_none hmode
    rw [hcause]
    exact ⟨cause, rfl⟩

theorem outcome_configure_mode_interval (hmode : c.refusal? (.mode mode) = none)
    (hinterval : c.refusal? (.interval ms) = none) :
    (c.configure (.ofPairs [(Change.interval ms).option, (Change.mode mode).option])).outcome =
      .ok ((c.set (.mode mode)).set (.interval ms)) := by
  have hpos : (Change.interval ms).InRange := (refusal?_eq_none_iff.mp hinterval).1
  have hi := applyText_text c (.interval ms) hpos.nonneg
  rw [outcome_update_of_refusal_eq_none hinterval] at hi
  have hm := applyText_text (c.set (.interval ms)) (.mode mode) nofun
  rw [outcome_update_of_refusal_eq_none ((refusal?_set_interval c ms mode).1.trans hmode)] at hm
  rw [outcome_configure_interval_mode]
  exact Outcome.bind_eq_ok_iff.mpr ⟨_, hi, hm⟩

theorem refused_configure_mode_interval
    (h : ¬(c.refusal? (.mode mode) = none ∧ c.refusal? (.interval ms) = none)) :
    ∃ cause, (c.configure
      (.ofPairs [(Change.interval ms).option, (Change.mode mode).option])).outcome =
        .error (.refused cause) := by
  rw [outcome_configure_interval_mode]
  by_cases hneg : ms < 0
  · obtain ⟨cause, hcause⟩ := applyText_of_neg hneg c
    exact ⟨cause, Outcome.bind_eq_error_iff.mpr (.inl hcause)⟩
  have hi := applyText_text c (.interval ms)
    fun _ hms => Change.interval.inj hms ▸ Int64.not_lt.mp hneg
  by_cases hinterval : c.refusal? (.interval ms) = none
  · have hmode : (c.set (.interval ms)).refusal? (.mode mode) ≠ none := fun hm => h ⟨hm, hinterval⟩
    obtain ⟨cause, hcause⟩ := outcome_update_of_refusal_ne_none hmode
    have hm := applyText_text (c.set (.interval ms)) (.mode mode) nofun
    rw [outcome_update_of_refusal_eq_none hinterval] at hi
    rw [hcause] at hm
    exact ⟨cause, Outcome.bind_eq_error_iff.mpr (.inr ⟨_, hi, hm⟩)⟩
  · obtain ⟨cause, hcause⟩ := outcome_update_of_refusal_ne_none hinterval
    rw [hcause] at hi
    exact ⟨cause, Outcome.bind_eq_error_iff.mpr (.inl hi)⟩

end IntervalAndMode

end Config

namespace Session
variable {s : Session} {step : Step} {x : Traced Error Config} {c : Config} {cause : Rejection}

/-- The step is done in place, and the session has the settings `c` after it. -/
def Accepts (s : Session) (step : Step) (c : Config) : Prop :=
  (s.perform step).1.outcome = .ok .done ∧ (s.perform step).2 = s.withConfig c

/-- The step is refused for a cause, and the session is as it was before. -/
def Refuses (s : Session) (step : Step) (cause : Rejection) : Prop :=
  (s.perform step).1.outcome = .error (.setting (.refused cause)) ∧ (s.perform step).2 = s

theorem accepts_of_take (htake : s.take step = s.onConfig x) (hx : x.outcome = .ok c) :
    s.Accepts step c := by
  have hdone : (s.take step).outcome = .ok (s.withConfig c, .done) := by
    rw [htake, onConfig, Traced.outcome_bind_of_ok hx]
    rfl
  rw [Accepts, perform_eq, answered]
  constructor
  · exact Traced.outcome_bind_of_ok hdone _
  · rw [next, hdone]

theorem refuses_of_take (htake : s.take step = s.onConfig x)
    (hx : x.outcome = .error (.setting (.refused cause))) : s.Refuses step cause := by
  have hfail : (s.take step).outcome = .error (.setting (.refused cause)) := by
    rw [htake, onConfig]
    exact Traced.outcome_bind_eq_error_iff.mpr (.inl hx)
  rw [Refuses, perform_eq, answered]
  constructor
  · exact Traced.outcome_bind_eq_error_iff.mpr (.inl hfail)
  · rw [next, hfail]

theorem take_enableWithMode_name (s : Session) (ms : Int64) (mode : Mode) :
    s.take (.enableWithMode ms mode.name) = s.onConfig (rejecting
      ((s.config.update (.mode mode)).andThen fun d => d.update (.interval ms))) := by
  have hlabel : Text.label mode.name = mode.name := (Mode.naming.isCanonical_name mode).label_eq_self
  have hread : Options.readMode mode.name = .ok mode := Options.readLabel_eq_ok_iff.mpr hlabel
  rw [take_enableWithMode, hread]
  exact congrArg _ (congrArg _ (Traced.ok_andThen mode _))

/-- A setter is refused where its option is, and for the same setting. -/
theorem refuses_option {change : Change} (h : s.config.refusal? change = some cause) :
    ∃ cause', s.Refuses (.configure (.single change.option)) cause' ∧
      cause.option = cause'.option := by
  have hrefused : ∃ cause', (s.config.configure (.single change.option)).outcome =
      .error (.refused cause') := by
    by_cases hneg : ∃ ms, change = .interval ms ∧ ms < 0
    · obtain ⟨ms, rfl, hms⟩ := hneg
      exact Config.outcome_configure_option_of_neg hms _
    · have hnonneg : ∀ ms, change = .interval ms → 0 ≤ ms :=
        fun ms hms => Int64.not_lt.mp fun hlt => hneg ⟨ms, hms, hlt⟩
      rw [Config.outcome_configure_option hnonneg, Config.update_of_refusal h]
      exact ⟨cause, rfl⟩
  obtain ⟨cause', hconfigure⟩ := hrefused
  refine ⟨cause', refuses_of_take rfl (Outcome.mapError_eq_error_iff.mpr ⟨_, hconfigure, rfl⟩), ?_⟩
  obtain ⟨value, hvalue⟩ := Config.lookup_of_outcome_configure hconfigure
  rw [Config.lookup_single_option] at hvalue
  split at hvalue
  · rename_i hsetting
    rw [Rejection.option, Rejection.option, Config.setting_of_refusal h, hsetting]
  · exact absurd hvalue (by simp)

theorem setter_agrees_with_option (s : Session) (change : Change) :
    s.Accepts (.change change) (s.config.set change) ∧
        s.Accepts (.configure (.single change.option)) (s.config.set change) ∨
      ∃ cause cause', s.Refuses (.change change) cause ∧
        s.Refuses (.configure (.single change.option)) cause' ∧ cause.option = cause'.option := by
  cases h : s.config.refusal? change with
  | none =>
    have hupdate := Config.outcome_update_of_refusal_eq_none h
    have hnonneg := (Config.refusal?_eq_none_iff.mp h).1.nonneg
    have hconfigure := Config.outcome_configure_option hnonneg s.config
    rw [hupdate] at hconfigure
    left
    exact ⟨accepts_of_take rfl (Traced.outcome_mapError_eq_ok_iff.mpr hupdate),
      accepts_of_take rfl (Traced.outcome_mapError_eq_ok_iff.mpr hconfigure)⟩
  | some cause =>
    have hupdate := congrArg Traced.outcome (Config.update_of_refusal h)
    obtain ⟨cause', hoption, hblame⟩ := refuses_option h
    right
    exact ⟨cause, cause', refuses_of_take rfl (Outcome.mapError_eq_error_iff.mpr ⟨_, hupdate, rfl⟩),
      hoption, hblame⟩

theorem enableWithMode_agrees_with_options (s : Session) (ms : Int64) (mode : Mode) :
    s.Accepts (.enableWithMode ms mode.name) ((s.config.set (.mode mode)).set (.interval ms)) ∧
        s.Accepts (.configure (.ofPairs [(Change.interval ms).option, (Change.mode mode).option]))
          ((s.config.set (.mode mode)).set (.interval ms)) ∨
      ∃ cause cause', s.Refuses (.enableWithMode ms mode.name) cause ∧
        s.Refuses (.configure (.ofPairs [(Change.interval ms).option, (Change.mode mode).option]))
          cause' := by
  by_cases h : s.config.refusal? (.mode mode) = none ∧ s.config.refusal? (.interval ms) = none
  · left
    exact ⟨accepts_of_take (take_enableWithMode_name s ms mode)
        (Traced.outcome_mapError_eq_ok_iff.mpr (Config.outcome_update_mode_interval h.1 h.2)),
      accepts_of_take rfl
        (Traced.outcome_mapError_eq_ok_iff.mpr (Config.outcome_configure_mode_interval h.1 h.2))⟩
  · obtain ⟨cause, hcause⟩ := Config.refused_update_mode_interval h
    obtain ⟨cause', hcause'⟩ := Config.refused_configure_mode_interval h
    right
    exact ⟨cause, cause',
      refuses_of_take (take_enableWithMode_name s ms mode)
        (Outcome.mapError_eq_error_iff.mpr ⟨_, hcause, rfl⟩),
      refuses_of_take rfl (Outcome.mapError_eq_error_iff.mpr ⟨_, hcause', rfl⟩)⟩

/-- What a setter does, the option with the text of its value does, and what refuses one refuses the
other. Where an interval and a mode are both at fault, the two ways may blame different ones. -/
theorem setters_and_options_agree (s : Session) :
    (∀ change : Change,
      s.Accepts (.change change) (s.config.set change) ∧
          s.Accepts (.configure (.single change.option)) (s.config.set change) ∨
        ∃ cause cause', s.Refuses (.change change) cause ∧
          s.Refuses (.configure (.single change.option)) cause' ∧ cause.option = cause'.option) ∧
    ∀ (ms : Int64) (mode : Mode),
      s.Accepts (.enableWithMode ms mode.name) ((s.config.set (.mode mode)).set (.interval ms)) ∧
          s.Accepts (.configure (.ofPairs [(Change.interval ms).option, (Change.mode mode).option]))
            ((s.config.set (.mode mode)).set (.interval ms)) ∨
        ∃ cause cause', s.Refuses (.enableWithMode ms mode.name) cause ∧
          s.Refuses (.configure (.ofPairs [(Change.interval ms).option, (Change.mode mode).option]))
            cause' :=
  ⟨s.setter_agrees_with_option, s.enableWithMode_agrees_with_options⟩

/-- The setter sees a number that is not positive, the option a text that is no duration. -/
example : (start "orders").Refuses (.change (.interval (-5))) (.intervalNotPositive (-5)) ∧
    (start "orders").Refuses (.configure (.single (Change.interval (-5)).option))
      (.invalidDuration .interval "-5" (.numberExpected 0)) :=
  ⟨⟨rfl, rfl⟩, ⟨rfl, rfl⟩⟩

end Session
end Checkpointing
