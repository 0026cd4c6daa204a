import Checkpointing.Proofs.Options.FirstFailure
import Checkpointing.Proofs.Options.Log

/-!
# Reports on options

No checkpoint option of a batch goes unreported. A key with the start of checkpoint options is either that
of a setting or is reported as passed over, by whichever of the two ways of comparing keys; keys of settings
are reported when their option has been applied, in the order of application.
-/

namespace Checkpointing
set_option autoImplicit false

namespace Event

def option? : Event → Option String
  | .optionIgnored key | .optionApplied key _ => some key
  | _ => none

def isReport (e : Event) : Bool := e.option?.isSome

end Event

namespace Setting
variable {key : String}

theorem isCheckpointKey_iff : isCheckpointKey key = true ↔ ∃ name, key = keyStart ++ name := by
  rw [isCheckpointKey, List.isPrefixOf_iff_prefix]
  constructor
  · intro ⟨name, hname⟩
    refine ⟨String.ofList name, ?_⟩
    rw [← String.toList_inj, String.toList_append, String.toList_ofList, hname]
  · intro ⟨name, hname⟩
    exact ⟨name.toList, by rw [hname, String.toList_append]⟩

theorem ofKey?_eq_none_iff : ofKey? key = none ↔ ∀ s : Setting, s.key ≠ key := by
  rw [ofKey?, List.find?_eq_none]
  simp [mem_all]

end Setting

namespace Options
variable {options : Options} {key : String} {s : Setting} {order : List Setting}

/-- The reports on the options of some settings, with the texts as they were given. -/
def applied (options : Options) (order : List Setting) : List Event :=
  order.filterMap fun s => (options.lookup s).map (Event.optionApplied s.key)

theorem mem_iff_lookup : s.key ∈ options ↔ (options.lookup s).isSome = true :=
  Std.TreeMap.mem_iff_isSome_getElem?

theorem nodup_unknownKeys (options : Options) : options.unknownKeys.Nodup :=
  Std.TreeMap.nodup_keys.filter _

theorem mem_unknownKeys_iff : key ∈ options.unknownKeys ↔
    key ∈ options ∧ Setting.isCheckpointKey key = true ∧ ∀ s : Setting, s.key ≠ key := by
  rw [unknownKeys, List.mem_filter, Std.TreeMap.mem_keys, Bool.and_eq_true,
    Option.isNone_iff_eq_none, Setting.ofKey?_eq_none_iff]

/-- Names are compared here where the keys are compared above. -/
theorem mem_unknownKeys_iff_name : key ∈ options.unknownKeys ↔
    key ∈ options ∧ ∃ name, key = Setting.keyStart ++ name ∧ ∀ s : Setting, s.name ≠ name := by
  rw [mem_unknownKeys_iff, Setting.isCheckpointKey_iff]
  refine and_congr_right fun _ => ?_
  constructor
  · intro ⟨⟨name, hname⟩, hkey⟩
    refine ⟨name, hname, fun s hs => hkey s ?_⟩
    rw [hname, ← hs, Setting.key]
  · intro ⟨name, hname, hne⟩
    refine ⟨⟨name, hname⟩, fun s hs => hne s ?_⟩
    rw [hname, Setting.key, String.append_right_inj] at hs
    exact hs

theorem filter_isReport_unknownKeys (options : Options) :
    (options.unknownKeys.map Event.optionIgnored).filter Event.isReport =
      options.unknownKeys.map .optionIgnored := by
  apply List.filter_eq_self.mpr
  intro e he
  obtain ⟨key, _, rfl⟩ := List.mem_map.mp he
  rfl

theorem filterMap_option?_unknownKeys (options : Options) :
    (options.unknownKeys.map Event.optionIgnored).filterMap Event.option? = options.unknownKeys := by
  rw [List.filterMap_map]
  exact List.filterMap_some

theorem flatMap_applied (options : Options) (order : List Setting) :
    (order.flatMap fun s => options.applied [s]) = options.applied order := by
  rw [applied, List.filterMap_eq_flatMap_toList]
  refine List.flatMap_congr fun s _ => ?_
  rw [applied, List.filterMap_eq_flatMap_toList, List.flatMap_singleton]

theorem mem_filterMap_option?_applied : key ∈ (options.applied order).filterMap Event.option? ↔
    ∃ s ∈ order, s.key = key ∧ key ∈ options := by
  simp only [applied, List.mem_filterMap, Option.map_eq_some_iff]
  constructor
  · intro ⟨e, ⟨s, hs, value, hvalue, he⟩, hkey⟩
    subst he
    obtain rfl := Option.some.inj hkey
    exact ⟨s, hs, rfl, mem_iff_lookup.mpr (Option.isSome_of_eq_some hvalue)⟩
  · intro ⟨s, hs, hkey, hmem⟩
    subst hkey
    obtain ⟨value, hvalue⟩ := Option.isSome_iff_exists.mp (mem_iff_lookup.mp hmem)
    exact ⟨_, ⟨s, hs, value, hvalue, rfl⟩, rfl⟩

theorem nodup_filterMap_option?_applied (horder : order.Nodup) :
    ((options.applied order).filterMap Event.option?).Nodup := by
  rw [applied, List.filterMap_filterMap]
  refine List.Nodup.filterMap ?_ horder
  intro s r key hs hr
  simp only [Option.mem_def, Option.bind_eq_some_iff, Option.map_eq_some_iff] at hs hr
  obtain ⟨_, ⟨_, _, rfl⟩, hs⟩ := hs
  obtain ⟨_, ⟨_, _, rfl⟩, hr⟩ := hr
  exact Setting.key_injective ((Option.some.inj hs).trans (Option.some.inj hr).symm)

/-- The keys of unknown and of applied options are those of the checkpoint options, each once. -/
theorem nodup_reported (options : Options) : (options.unknownKeys ++
    (options.applied Setting.all).filterMap Event.option?).Nodup := by
  rw [List.nodup_append]
  refine ⟨options.nodup_unknownKeys, nodup_filterMap_option?_applied Setting.nodup_all, ?_⟩
  intro key hunknown key' happlied heq
  subst heq
  obtain ⟨s, _, hs, _⟩ := mem_filterMap_option?_applied.mp happlied
  exact (mem_unknownKeys_iff.mp hunknown).2.2 s hs

theorem mem_reported_iff : key ∈ options.unknownKeys ++
    (options.applied Setting.all).filterMap Event.option? ↔
      key ∈ options ∧ Setting.isCheckpointKey key = true := by
  rw [List.mem_append, mem_unknownKeys_iff, mem_filterMap_option?_applied]
  constructor
  · intro h
    rcases h with ⟨hmem, hstart, _⟩ | ⟨s, _, hs, hmem⟩
    · exact ⟨hmem, hstart⟩
    · exact ⟨hmem, Setting.isCheckpointKey_iff.mpr ⟨s.name, hs.symm⟩⟩
  · intro ⟨hmem, hstart⟩
    by_cases hknown : ∃ s : Setting, s.key = key
    · obtain ⟨s, hs⟩ := hknown
      exact Or.inr ⟨s, s.mem_all, hs, hmem⟩
    · exact Or.inl ⟨hmem, hstart, not_exists.mp hknown⟩

end Options

namespace Config
variable {options : Options} {c d t : Config} {s : Setting}

theorem filter_isReport_eventsOf (c : Config) (change : Change) :
    (c.eventsOf change).filter Event.isReport = [] := by
  have hwarning : c.pauseWarning.filter Event.isReport = [] := by
    unfold pauseWarning
    split <;> rfl
  cases change with
  | interval ms => exact hwarning
  | minPause ms => exact hwarning
  | maxConcurrent n | tolerableFailures n | unaligned on =>
    simp only [eventsOf]
    split <;> rfl
  | mode | timeout | failOnErrors | retention | approximateRecovery | forceUnaligned
  | alignmentTimeout | ignoredCheckpoint => rfl

theorem filter_isReport_applyOption (h : (applyOption options c s).outcome = .ok d) :
    (applyOption options c s).events.filter Event.isReport = options.applied [s] := by
  cases hvalue : options.lookup s with
  | none =>
    rw [applyOption_of_lookup_eq_none hvalue, Options.applied]
    simp [hvalue]
  | some value =>
    rw [events_applyOption_of_ok hvalue h, List.filter_append, filter_isReport_eventsOf,
      Options.applied]
    simp [hvalue, Event.isReport, Event.option?]

theorem filter_isReport_foldlM {order : List Setting}
    (h : (order.foldlM (applyOption options) c).outcome = .ok d) :
    (order.foldlM (applyOption options) c).events.filter Event.isReport = options.applied order := by
  have hpart : ∀ s ∈ order, ∀ c d : Config, (applyOption options c s).outcome = .ok d →
      (applyOption options c s).events.filter Event.isReport = options.applied [s] :=
    fun _ _ _ _ => filter_isReport_applyOption
  rw [Traced.filter_events_foldlM hpart h, options.flatMap_applied]

def reports (c : Config) (options : Options) : List Event :=
  (c.configure options).events.filter Event.isReport

theorem reports_of_accepted (h : (c.configure options).outcome = .ok t) :
    c.reports options = options.unknownKeys.map .optionIgnored ++ options.applied Setting.all := by
  obtain ⟨d, hd, hfold⟩ := outcome_configure_eq_ok_iff.mp h
  rw [reports, events_configure_of_release hd, List.filter_append, filter_isReport_foldlM hfold,
    options.filter_isReport_unknownKeys]

/-- Either the text about unaligned checkpoints stops the batch ahead of all options, or the option of one
setting does, after all before it. -/
theorem reports_of_refused {cause : Rejection}
    (h : (c.configure options).outcome = .error (.refused cause)) :
    releaseUnaligned options c = .error cause ∧
        c.reports options = options.unknownKeys.map .optionIgnored ∨
      (∃ d, releaseUnaligned options c = .ok d) ∧
        c.reports options = options.unknownKeys.map .optionIgnored ++
          options.applied (Setting.all.takeWhile (· != cause.setting)) := by
  rcases outcome_configure_eq_error_iff.mp h with hrelease | ⟨s, value, d, hvalue, hd, hfail⟩
  · obtain ⟨cause', hcause, heq⟩ := Outcome.mapError_eq_error_iff.mp hrelease
    obtain rfl := Failure.refused.inj heq
    refine Or.inl ⟨hcause, ?_⟩
    rw [reports, events_configure_of_release_error hcause, options.filter_isReport_unknownKeys]
  · obtain rfl := setting_of_applyText hfail
    obtain ⟨e, he, hdone⟩ := outcome_configureUpTo_eq_ok_iff.mp hd
    refine Or.inr ⟨⟨e, he⟩, ?_⟩
    rw [reports, events_configure_of_release he, events_foldlM_of_error hdone hvalue hfail,
      List.filter_append, filter_isReport_foldlM hdone, options.filter_isReport_unknownKeys]

/-- No key of a checkpoint option is dropped silently. -/
theorem every_option_is_reported (options : Options) (c : Config) :
    (options.unknownKeys.Nodup ∧ ∀ key, key ∈ options.unknownKeys ↔
      key ∈ options ∧ ∃ name, key = Setting.keyStart ++ name ∧ ∀ s : Setting, s.name ≠ name) ∧
    (∀ t, (c.configure options).outcome = .ok t →
      c.reports options = options.unknownKeys.map .optionIgnored ++ options.applied Setting.all ∧
      ((c.reports options).filterMap Event.option?).Nodup ∧
      ∀ key, key ∈ (c.reports options).filterMap Event.option? ↔
        key ∈ options ∧ ∃ name, key = Setting.keyStart ++ name) ∧
    ∀ cause, (c.configure options).outcome = .error (.refused cause) →
      ((∃ value, options.lookup .unaligned = some value ∧
          ∀ on, ¬Options.DenotesFlag (Text.trim value) on) →
        c.reports options = options.unknownKeys.map .optionIgnored) ∧
      ((∀ value, options.lookup .unaligned = some value →
          ∃ on, Options.DenotesFlag (Text.trim value) on) →
        c.reports options = options.unknownKeys.map .optionIgnored ++
          options.applied (Setting.all.takeWhile (· != cause.setting))) := by
  refine ⟨⟨options.nodup_unknownKeys, fun _ => Options.mem_unknownKeys_iff_name⟩, ?_, ?_⟩
  · intro t ht
    have hkeys : (c.reports options).filterMap Event.option? =
        options.unknownKeys ++ (options.applied Setting.all).filterMap Event.option? := by
      rw [reports_of_accepted ht, List.filterMap_append, options.filterMap_option?_unknownKeys]
    rw [hkeys]
    refine ⟨reports_of_accepted ht, options.nodup_reported, fun key => ?_⟩
    rw [Options.mem_reported_iff, Setting.isCheckpointKey_iff]
  · intro cause hcause
    rcases reports_of_refused hcause with ⟨hrelease, hreports⟩ | ⟨⟨d, hd⟩, hreports⟩
    · refine ⟨fun _ => hreports, fun hflag => ?_⟩
      exact absurd hrelease (releaseUnaligned_ne_error hflag c cause)
    · refine ⟨fun ⟨value, hvalue, hflag⟩ => ?_, fun _ => hreports⟩
      rcases releaseUnaligned_eq_ok_iff.mp hd with ⟨hnone, _⟩ | ⟨value', on, hvalue', hon, _⟩
      · rw [hnone] at hvalue
        cases hvalue
      · obtain rfl := Option.some.inj (hvalue.symm.trans hvalue')
        exact absurd hon (hflag on)

/-- Keys of two settings, the bare start of such keys, one that is longer than a key, and a foreign one. -/
def mixedKeys (timeout : String) : Options :=
  .ofPairs [("execution.checkpointing.interval", " 10 s "), ("execution.checkpointing.", "1"),
    ("execution.checkpointing.interval.ms", "5"), ("pipeline.name", "orders"),
    ("execution.checkpointing.timeout", timeout)]

theorem every_option_is_reported_mixedKeys :
    (∃ t, (default.configure (mixedKeys "1 min")).outcome = .ok t ∧
      default.reports (mixedKeys "1 min") =
        [.optionIgnored "execution.checkpointing.",
          .optionIgnored "execution.checkpointing.interval.ms",
          .optionApplied "execution.checkpointing.interval" " 10 s ",
          .optionApplied "execution.checkpointing.timeout" "1 min"]) ∧
    (default.configure (mixedKeys "0 s")).outcome = .error (.refused .timeoutNotPositive) ∧
      default.reports (mixedKeys "0 s") =
        [.optionIgnored "execution.checkpointing.",
          .optionIgnored "execution.checkpointing.interval.ms",
          .optionApplied "execution.checkpointing.interval" " 10 s "] := by
  have haccepted : (default.configure (mixedKeys "1 min")).outcome =
      .ok { default with interval := 10000, timeout := 60000 } := by rfl
  have hrefused : (default.configure (mixedKeys "0 s")).outcome =
      .error (.refused .timeoutNotPositive) := by rfl
  obtain ⟨_, hreports, _⟩ := every_option_is_reported (mixedKeys "1 min") default
  obtain ⟨_, _, hstopped⟩ := every_option_is_reported (mixedKeys "0 s") default
  refine ⟨⟨_, haccepted, (hreports _ haccepted).1⟩, hrefused, ?_⟩
  exact (hstopped _ hrefused).2 fun _ hvalue => by cases hvalue

end Config
end Checkpointing
