import Checkpointing.Proofs.Options.Log

/-!
# Warnings of batches

A batch warns of the pause when it has set the interval, and once more when it has set the pause. The
interval comes first, so the first warning is about the pause from before the batch, which the batch may
be about to replace: an accepted batch can warn of a pause that its result does not have.
-/

namespace Checkpointing
set_option autoImplicit false

def Event.isPauseWarning : Event → Bool
  | .pauseExceedsInterval _ _ => true
  | _ => false

namespace Config
variable {options : Options} {c d t : Config} {s : Setting} {order : List Setting} {e : Event}

theorem get_of_release (h : releaseUnaligned options c = .ok d) (hs : s ≠ .unaligned) :
    d.get s = c.get s := by
  rcases releaseUnaligned_eq_ok_iff.mp h with ⟨_, rfl⟩ | ⟨_, on, _, _, rfl⟩
  · rfl
  · cases on with
    | true => rfl
    | false => exact (get_set c _ s).trans (if_neg hs)

theorem get_of_applyOption {r : Setting} (h : (applyOption options c r).outcome = .ok d)
    (hs : s ≠ r) : d.get s = c.get s := by
  cases hvalue : options.lookup r with
  | none =>
    rw [applyOption_of_lookup_eq_none hvalue] at h
    rw [Except.ok.inj h]
  | some value =>
    obtain ⟨change, rfl, _, _, rfl⟩ := (outcome_applyOption_eq_ok_iff hvalue).mp h
    rw [get_set, if_neg hs]

theorem get_of_foldlM (h : (order.foldlM (applyOption options) c).outcome = .ok d) (hs : s ∉ order) :
    d.get s = c.get s := by
  induction order generalizing c with
  | nil => rw [Except.ok.inj h]
  | cons r order ih =>
    rw [List.foldlM_cons, Traced.outcome_bind_eq_ok_iff] at h
    obtain ⟨e, he, h⟩ := h
    rw [ih h fun hmem => hs (List.mem_cons_of_mem r hmem)]
    exact get_of_applyOption he fun hsr => hs (hsr ▸ List.mem_cons_self)

theorem mem_pauseWarning_iff : e ∈ c.pauseWarning ↔
    (c.isEnabled = true ∧ c.interval.toInt < c.minPause.toNat) ∧
      e = .pauseExceedsInterval c.minPause c.interval := by
  rw [pauseWarning, pauseExceedsInterval]
  split
  · rename_i h
    rw [Bool.and_eq_true, decide_eq_true_eq] at h
    rw [List.mem_singleton, and_iff_right h]
  · rename_i h
    rw [Bool.and_eq_true, decide_eq_true_eq] at h
    exact iff_of_false List.not_mem_nil fun hmem => h hmem.1

theorem pauseWarning_congr (hinterval : c.get .interval = d.get .interval)
    (hpause : c.get .minPause = d.get .minPause) : c.pauseWarning = d.pauseWarning := by
  have hinterval : c.interval = d.interval := Change.interval.inj hinterval
  have hpause : c.minPause = d.minPause := Change.minPause.inj hpause
  rw [pauseWarning, pauseWarning, pauseExceedsInterval, pauseExceedsInterval, isEnabled, isEnabled,
    hinterval, hpause]

theorem filter_isPauseWarning_pauseWarning (c : Config) :
    c.pauseWarning.filter Event.isPauseWarning = c.pauseWarning := by
  unfold pauseWarning
  split <;> rfl

theorem filter_isPauseWarning_eventsOf (c : Config) (change : Change) :
    (c.eventsOf change).filter Event.isPauseWarning =
      if change.setting = .interval ∨ change.setting = .minPause then c.pauseWarning else [] := by
  cases change with
  | interval ms => exact c.filter_isPauseWarning_pauseWarning
  | minPause ms => exact c.filter_isPauseWarning_pauseWarning
  | maxConcurrent n | tolerableFailures n | unaligned on =>
    simp only [eventsOf]
    split <;> rfl
  | mode | timeout | failOnErrors | retention | approximateRecovery | forceUnaligned
  | alignmentTimeout | ignoredCheckpoint => rfl

theorem filter_isPauseWarning_applyOption (h : (applyOption options c s).outcome = .ok d) :
    (applyOption options c s).events.filter Event.isPauseWarning =
      if (s = .interval ∨ s = .minPause) ∧ (options.lookup s).isSome then d.pauseWarning else [] := by
  cases hvalue : options.lookup s with
  | none =>
    rw [applyOption_of_lookup_eq_none hvalue, if_neg (by simp)]
    rfl
  | some value =>
    have hreport : [Event.optionApplied s.key value].filter Event.isPauseWarning = [] := rfl
    rw [events_applyOption_of_ok hvalue h, List.filter_append, filter_isPauseWarning_eventsOf, hreport,
      List.append_nil, setting_get]
    simp

theorem filter_isPauseWarning_foldlM (hinterval : .interval ∉ order) (hpause : .minPause ∉ order)
    (h : (order.foldlM (applyOption options) c).outcome = .ok d) :
    (order.foldlM (applyOption options) c).events.filter Event.isPauseWarning = [] := by
  have hpart : ∀ s ∈ order, ∀ c d : Config, (applyOption options c s).outcome = .ok d →
      (applyOption options c s).events.filter Event.isPauseWarning = [] := by
    intro s hs c d hd
    rw [filter_isPauseWarning_applyOption hd, if_neg]
    intro ⟨hwarns, _⟩
    rcases hwarns with rfl | rfl
    · exact hinterval hs
    · exact hpause hs
  rw [Traced.filter_events_foldlM hpart h, List.flatMap_eq_nil_iff]
  exact fun _ _ => rfl

/-- The settings that have their turn when the interval has its new value and the pause still its old one. -/
def betweenBoth : List Setting := [.mode, .timeout]

def afterPause : List Setting :=
  [.maxConcurrent, .failOnErrors, .tolerableFailures, .retention, .approximateRecovery, .unaligned,
   .forceUnaligned, .alignmentTimeout, .ignoredCheckpoint]

/-- A whole run, taken apart at the turns of the interval and of the pause. -/
theorem exists_turns (h : (Setting.all.foldlM (applyOption options) c).outcome = .ok t) :
    ∃ c₁ c₂ c₃ : Config, (applyOption options c .interval).outcome = .ok c₁ ∧
      (betweenBoth.foldlM (applyOption options) c₁).outcome = .ok c₂ ∧
      (applyOption options c₂ .minPause).outcome = .ok c₃ ∧
      (afterPause.foldlM (applyOption options) c₃).outcome = .ok t ∧
      (Setting.all.foldlM (applyOption options) c).events =
        (applyOption options c .interval).events ++
          ((betweenBoth.foldlM (applyOption options) c₁).events ++
            ((applyOption options c₂ .minPause).events ++
              (afterPause.foldlM (applyOption options) c₃).events)) := by
  have hall : Setting.all = .interval :: (betweenBoth ++ .minPause :: afterPause) := rfl
  rw [hall, List.foldlM_cons, Traced.outcome_bind_eq_ok_iff] at h
  obtain ⟨c₁, h₁, h⟩ := h
  rw [List.foldlM_append, Traced.outcome_bind_eq_ok_iff] at h
  obtain ⟨c₂, h₂, h⟩ := h
  rw [List.foldlM_cons, Traced.outcome_bind_eq_ok_iff] at h
  obtain ⟨c₃, h₃, h₄⟩ := h
  refine ⟨c₁, c₂, c₃, h₁, h₂, h₃, h₄, ?_⟩
  rw [hall, List.foldlM_cons, Traced.events_bind_of_ok h₁, Traced.events_foldlM_append h₂,
    List.foldlM_cons, Traced.events_bind_of_ok h₃]

theorem filter_isPauseWarning_unknownKeys (options : Options) :
    (options.unknownKeys.map Event.optionIgnored).filter Event.isPauseWarning = [] := by
  apply List.filter_eq_nil_iff.mpr
  intro e he
  obtain ⟨key, _, rfl⟩ := List.mem_map.mp he
  exact Bool.false_ne_true

theorem filter_isPauseWarning_configure (h : (c.configure options).outcome = .ok t) :
    (c.configure options).events.filter Event.isPauseWarning =
      (if (options.lookup .interval).isSome then { t with minPause := c.minPause }.pauseWarning else []) ++
        if (options.lookup .minPause).isSome then t.pauseWarning else [] := by
  obtain ⟨c₀, h₀, hfold⟩ := outcome_configure_eq_ok_iff.mp h
  obtain ⟨c₁, c₂, c₃, h₁, h₂, h₃, h₄, hevents⟩ := exists_turns hfold
  rw [events_configure_of_release h₀, hevents]
  simp only [List.filter_append, filter_isPauseWarning_unknownKeys, filter_isPauseWarning_applyOption h₁,
    filter_isPauseWarning_foldlM (by decide) (by decide) h₂, filter_isPauseWarning_applyOption h₃,
    filter_isPauseWarning_foldlM (by decide) (by decide) h₄]
  -- the interval has its new value from its turn on, the pause only from its own turn on
  have hinterval₃ : t.get .interval = c₃.get .interval := get_of_foldlM h₄ (by decide)
  have hinterval₁ : c₃.get .interval = c₁.get .interval :=
    (get_of_applyOption h₃ (by decide)).trans (get_of_foldlM h₂ (by decide))
  have hpause₃ : t.get .minPause = c₃.get .minPause := get_of_foldlM h₄ (by decide)
  have hpause₁ : c₁.get .minPause = c.get .minPause :=
    (get_of_applyOption h₁ (by decide)).trans (get_of_release h₀ (by decide))
  have hfirst : c₁.pauseWarning = { t with minPause := c.minPause }.pauseWarning :=
    pauseWarning_congr (hinterval₃.trans hinterval₁).symm hpause₁
  have hsecond : c₃.pauseWarning = t.pauseWarning := pauseWarning_congr hinterval₃.symm hpause₃.symm
  rw [hfirst, hsecond]
  simp

theorem isEnabled_of_interval {value : String} (h : (c.configure options).outcome = .ok t)
    (hvalue : options.lookup .interval = some value) : t.isEnabled = true :=
  decide_eq_true ((replaces_of_outcome_configure h).given .interval value hvalue).2

/-- The warnings in a log are about these settings. -/
def BearsOut (t : Config) (events : List Event) : Prop :=
  ∀ pause interval, .pauseExceedsInterval pause interval ∈ events →
    t.isEnabled = true ∧ t.interval.toInt < t.minPause.toNat ∧
      pause = t.minPause ∧ interval = t.interval

theorem bearsOut_nil (t : Config) : t.BearsOut [] := fun _ _ h => absurd h List.not_mem_nil

theorem bearsOut_append_iff {first second : List Event} :
    t.BearsOut (first ++ second) ↔ t.BearsOut first ∧ t.BearsOut second := by
  constructor
  · intro h
    exact ⟨fun _ _ hmem => h _ _ (List.mem_append_left second hmem),
      fun _ _ hmem => h _ _ (List.mem_append_right first hmem)⟩
  · intro ⟨hfirst, hsecond⟩ pause interval hmem
    rcases List.mem_append.mp hmem with hmem | hmem
    · exact hfirst pause interval hmem
    · exact hsecond pause interval hmem

theorem bearsOut_filter_iff {events : List Event} :
    t.BearsOut (events.filter Event.isPauseWarning) ↔ t.BearsOut events := by
  constructor
  · intro h pause interval hmem
    exact h pause interval (List.mem_filter.mpr ⟨hmem, rfl⟩)
  · intro h pause interval hmem
    exact h pause interval (List.mem_filter.mp hmem).1

theorem bearsOut_pauseWarning_iff : t.BearsOut c.pauseWarning ↔
    (c.isEnabled = true → c.interval.toInt < c.minPause.toNat →
      c.minPause = t.minPause ∧ c.interval = t.interval) := by
  constructor
  · intro h henabled hlong
    exact (h _ _ (mem_pauseWarning_iff.mpr ⟨⟨henabled, hlong⟩, rfl⟩)).2.2
  · intro h pause interval hmem
    obtain ⟨⟨henabled, hlong⟩, heq⟩ := mem_pauseWarning_iff.mp hmem
    obtain ⟨rfl, rfl⟩ := Event.pauseExceedsInterval.inj heq
    obtain ⟨hpause, hinterval⟩ := h henabled hlong
    rw [isEnabled] at henabled ⊢
    rw [← hpause, ← hinterval]
    exact ⟨henabled, hlong, rfl, rfl⟩

/-- The warnings of an accepted batch are about its result unless it sets both the interval and the pause,
to an interval that is shorter than the pause was. -/
theorem pause_warnings_of_batch (options : Options) (c t : Config)
    (h : (c.configure options).outcome = .ok t) :
    (c.configure options).events.filter Event.isPauseWarning =
      (if (options.lookup .interval).isSome then { t with minPause := c.minPause }.pauseWarning else []) ++
        (if (options.lookup .minPause).isSome then t.pauseWarning else []) ∧
    (t.BearsOut (c.configure options).events ↔
      ((options.lookup .interval).isSome → t.interval.toInt < c.minPause.toNat →
        c.minPause = t.minPause)) := by
  have hlog := filter_isPauseWarning_configure h
  refine ⟨hlog, ?_⟩
  have hsecond : t.BearsOut (if (options.lookup .minPause).isSome then t.pauseWarning else []) := by
    split
    · exact bearsOut_pauseWarning_iff.mpr fun _ _ => ⟨rfl, rfl⟩
    · exact t.bearsOut_nil
  rw [← bearsOut_filter_iff, hlog, bearsOut_append_iff, and_iff_left hsecond]
  cases hvalue : options.lookup .interval with
  | none => exact iff_of_true t.bearsOut_nil fun h => by cases h
  | some value =>
    rw [Option.isSome_some, if_pos rfl, bearsOut_pauseWarning_iff]
    constructor
    · intro hfirst _ hlong
      have henabled : t.isEnabled = true := isEnabled_of_interval h hvalue
      exact (hfirst henabled hlong).1
    · intro hpause _ hlong
      exact ⟨hpause rfl hlong, rfl⟩

def longPause : Config := { default with minPause := 100 }

def shorterBoth : Options :=
  .ofPairs [("execution.checkpointing.interval", "10"), ("execution.checkpointing.min-pause", "5")]

/-- The warning comes before the pause is replaced. -/
theorem configure_shorterBoth : longPause.configure shorterBoth =
    ⟨[.enabled 10, .pauseExceedsInterval 100 10,
        .optionApplied "execution.checkpointing.interval" "10",
        .optionApplied "execution.checkpointing.min-pause" "5"],
      .ok { default with interval := 10, minPause := 5 }⟩ := by rfl

theorem pause_warnings_of_batch_shortening_both :
    ∃ t, (longPause.configure shorterBoth).outcome = .ok t ∧
      (longPause.configure shorterBoth).events.filter Event.isPauseWarning =
        [.pauseExceedsInterval 100 10] ∧
      ¬t.BearsOut (longPause.configure shorterBoth).events := by
  have hbatch := congrArg Traced.outcome configure_shorterBoth
  obtain ⟨hlog, hbears⟩ := pause_warnings_of_batch shorterBoth _ _ hbatch
  refine ⟨_, hbatch, hlog.trans rfl, fun h => ?_⟩
  exact absurd (hbears.mp h rfl (by decide)) (by decide)

/-- A batch may warn of a pause that it is about to replace. -/
theorem not_pause_warnings_of_result : ¬ ∀ (options : Options) (c t : Config), c.Coherent →
    (c.configure options).outcome = .ok t → t.BearsOut (c.configure options).events := by
  intro h
  have hbatch := congrArg Traced.outcome configure_shorterBoth
  have hwarning : .pauseExceedsInterval 100 10 ∈ (longPause.configure shorterBoth).events := by
    rw [configure_shorterBoth]
    decide
  obtain ⟨_, _, hpause, _⟩ := h shorterBoth longPause _ (by decide) hbatch 100 10 hwarning
  exact absurd hpause (by decide)

end Config
end Checkpointing
