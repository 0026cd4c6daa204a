import Checkpointing.Proofs.Options.Totality

/-!
# The first failure

A batch is refused at the first of its options that fails when its turn comes. The options before that
one would have been accepted by themselves, and the options after it have no say in the error. Only
the text about unaligned checkpoints is read ahead of its turn.
-/

namespace Checkpointing
set_option autoImplicit false

def Setting.Precedes (r s : Setting) : Prop := r ∈ all.takeWhile (· != s)

instance (r s : Setting) : Decidable (r.Precedes s) :=
  inferInstanceAs (Decidable (r ∈ Setting.all.takeWhile (· != s)))

namespace Options
variable {options options' : Options} {r s : Setting}

instance (text : String) (on : Bool) : Decidable (DenotesFlag text on) :=
  inferInstanceAs (Decidable (String.ofList (text.toList.map Char.toLower) = toString on))

/-- The part of a batch that has had its effect when the option of `s` is due: the options that
precede it, and the one that turns unaligned checkpoints off. -/
def before (options : Options) (s : Setting) : Options :=
  options.filter fun key text => (Setting.ofKey? key).any fun r =>
    r.Precedes s ∨ r = .unaligned ∧ DenotesFlag (Text.trim text) false

theorem lookup_before_eq_some_iff {value : String} :
    (options.before s).lookup r = some value ↔ options.lookup r = some value ∧
      (r.Precedes s ∨ r = .unaligned ∧ DenotesFlag (Text.trim value) false) := by
  rw [lookup, before, Std.TreeMap.getElem?_filter', Setting.ofKey?_key, Option.filter_eq_some_iff,
    Option.any_some, decide_eq_true_eq, lookup]

theorem lookup_before_of_precedes (h : r.Precedes s) :
    (options.before s).lookup r = options.lookup r := by
  ext value
  rw [lookup_before_eq_some_iff]
  exact and_iff_left (Or.inl h)

theorem readFlag_eq_error {text : String} (h : ∀ on, ¬DenotesFlag text on) (s : Setting) :
    readFlag s text = .error (.invalidFlag s text) := by
  unfold readFlag
  split
  · rename_i htrue
    exact absurd htrue (h true)
  · rename_i hfalse
    exact absurd hfalse (h false)
  · rfl

end Options

namespace Config
variable {options options' : Options} {c d : Config} {s : Setting} {cause : Rejection}

/-- A batch is refused on account of one of its own options. -/
theorem lookup_of_outcome_configure (h : (c.configure options).outcome = .error (.refused cause)) :
    ∃ value, options.lookup cause.setting = some value := by
  rcases outcome_configure_eq_error_iff.mp h with h | ⟨s, value, d, hvalue, _, happly⟩
  · obtain ⟨r, hr, he⟩ := Outcome.mapError_eq_error_iff.mp h
    obtain rfl := Failure.refused.inj he
    exact lookup_of_releaseUnaligned hr
  · exact ⟨value, (setting_of_applyText happly).symm ▸ hvalue⟩

theorem releaseUnaligned_congr (h : options'.lookup .unaligned = options.lookup .unaligned)
    (c : Config) : releaseUnaligned options' c = releaseUnaligned options c := by
  rw [releaseUnaligned, releaseUnaligned, h]

theorem foldlM_applyOption_congr {order : List Setting}
    (h : ∀ r ∈ order, options'.lookup r = options.lookup r) (c : Config) :
    order.foldlM (applyOption options') c = order.foldlM (applyOption options) c := by
  induction order generalizing c with
  | nil => rfl
  | cons r order ih =>
    have happly : applyOption options' c r = applyOption options c r := by
      rw [applyOption, applyOption, h r List.mem_cons_self]
    rw [List.foldlM_cons, List.foldlM_cons, happly]
    exact congrArg _ (funext fun d => ih (fun r hr => h r (List.mem_cons_of_mem _ hr)) d)

theorem configureUpTo_congr (hunaligned : options'.lookup .unaligned = options.lookup .unaligned)
    (hprecedes : ∀ r : Setting, r.Precedes s → options'.lookup r = options.lookup r) (c : Config) :
    configureUpTo options' c s = configureUpTo options c s := by
  rw [configureUpTo, configureUpTo, releaseUnaligned_congr hunaligned]
  exact congrArg _ (funext fun d => foldlM_applyOption_congr hprecedes d)

/-- A text that turns unaligned checkpoints on has no effect ahead of its turn. -/
theorem releaseUnaligned_before (h : releaseUnaligned options c = .ok d) (s : Setting) :
    releaseUnaligned (options.before s) c = .ok d := by
  rw [releaseUnaligned_eq_ok_iff]
  cases hbefore : (options.before s).lookup .unaligned with
  | some value =>
    have hvalue := (Options.lookup_before_eq_some_iff.mp hbefore).1
    rcases releaseUnaligned_eq_ok_iff.mp h with ⟨hnone, _⟩ | ⟨value', on, hvalue', hon, hd⟩
    · rw [hnone] at hvalue
      exact absurd hvalue (by simp)
    · obtain rfl := Option.some.inj (hvalue.symm.trans hvalue')
      exact Or.inr ⟨value, on, rfl, hon, hd⟩
  | none =>
    refine Or.inl ⟨rfl, ?_⟩
    rcases releaseUnaligned_eq_ok_iff.mp h with ⟨_, hd⟩ | ⟨value, on, hvalue, hon, hd⟩
    · exact hd
    · cases on with
      | true => exact hd
      | false =>
        rw [Options.lookup_before_eq_some_iff.mpr ⟨hvalue, Or.inr ⟨rfl, hon⟩⟩] at hbefore
        exact absurd hbefore (by simp)

/-- Turning unaligned checkpoints off is never refused. -/
theorem exists_outcome_applyOption_before {r : Setting} (hr : ¬r.Precedes s) (c : Config) :
    ∃ d, (applyOption (options.before s) c r).outcome = .ok d := by
  cases hlookup : (options.before s).lookup r with
  | none =>
    rw [applyOption_of_lookup_eq_none hlookup]
    exact ⟨c, rfl⟩
  | some value =>
    obtain ⟨rfl, hoff⟩ := (Options.lookup_before_eq_some_iff.mp hlookup).2.resolve_left hr
    exact ⟨_, (outcome_applyOption_eq_ok_iff hlookup).mpr ⟨.unaligned false, rfl, hoff, rfl, rfl⟩⟩

theorem exists_outcome_foldlM_before {order : List Setting} (h : ∀ r ∈ order, ¬r.Precedes s)
    (c : Config) : ∃ d, (order.foldlM (applyOption (options.before s)) c).outcome = .ok d := by
  induction order generalizing c with
  | nil => exact ⟨c, rfl⟩
  | cons r order ih =>
    obtain ⟨e, he⟩ := exists_outcome_applyOption_before (h r List.mem_cons_self) c
    obtain ⟨d, hd⟩ := ih (fun r hr => h r (List.mem_cons_of_mem _ hr)) e
    rw [List.foldlM_cons]
    exact ⟨d, (Traced.outcome_bind_of_ok he _).trans hd⟩

/-- What has been applied when an option is due would have been accepted by itself. -/
theorem exists_outcome_configure_before (h : (configureUpTo options c s).outcome = .ok d) :
    ∃ t, (c.configure (options.before s)).outcome = .ok t := by
  obtain ⟨e, he, hdone⟩ := outcome_configureUpTo_eq_ok_iff.mp h
  obtain ⟨rest, hall⟩ := exists_all_eq_append s
  have hnodup := Setting.nodup_all
  rw [hall, List.nodup_append] at hnodup
  have hrest : ∀ r ∈ s :: rest, ¬r.Precedes s := fun r hr hprecedes =>
    hnodup.2.2 r hprecedes r hr rfl
  obtain ⟨t, ht⟩ := @exists_outcome_foldlM_before options s (s :: rest) hrest d
  refine ⟨t, outcome_configure_eq_ok_iff.mpr ⟨e, releaseUnaligned_before he s, ?_⟩⟩
  rw [hall, List.foldlM_append,
    foldlM_applyOption_congr (fun r hr => Options.lookup_before_of_precedes hr)]
  exact (Traced.outcome_bind_of_ok hdone _).trans ht

theorem outcome_configure_of_invalidFlag {value : String}
    (hvalue : options.lookup .unaligned = some value)
    (h : ∀ on, ¬Options.DenotesFlag (Text.trim value) on) (c : Config) :
    (c.configure options).outcome =
      .error (.refused (.invalidFlag .unaligned (Text.trim value))) := by
  refine outcome_configure_eq_error_iff.mpr (Or.inl ?_)
  rw [releaseUnaligned, hvalue]
  dsimp only
  rw [Options.readFlag_eq_error h]
  rfl

theorem releaseUnaligned_ne_error (h : ∀ value, options.lookup .unaligned = some value →
    ∃ on, Options.DenotesFlag (Text.trim value) on) (c : Config) (cause : Rejection) :
    releaseUnaligned options c ≠ .error cause := by
  have hok : ∃ d, releaseUnaligned options c = .ok d := by
    cases hvalue : options.lookup .unaligned with
    | none => exact ⟨c, releaseUnaligned_eq_ok_iff.mpr (Or.inl ⟨hvalue, rfl⟩)⟩
    | some value =>
      obtain ⟨on, hon⟩ := h value hvalue
      exact ⟨_, releaseUnaligned_eq_ok_iff.mpr (Or.inr ⟨value, on, hvalue, hon, rfl⟩)⟩
  obtain ⟨d, hd⟩ := hok
  simp [hd]

/-- The error of a refused batch is that of its first option to fail, whatever comes after. -/
theorem first_failure_is_blamed (options : Options) (c : Config) (cause : Rejection)
    (h : (c.configure options).outcome = .error (.refused cause)) :
    (∀ value, options.lookup .unaligned = some value →
      (∀ on, ¬Options.DenotesFlag (Text.trim value) on) →
        cause = .invalidFlag .unaligned (Text.trim value) ∧
        ∀ options' : Options, options'.lookup .unaligned = some value →
          (c.configure options').outcome = .error (.refused cause)) ∧
    ((∀ value, options.lookup .unaligned = some value →
        ∃ on, Options.DenotesFlag (Text.trim value) on) →
      ∃ s value, cause.option = s.name ∧ options.lookup s = some value ∧
        (∃ t, (c.configure (options.before s)).outcome = .ok t) ∧
        ∀ options' : Options,
          (∀ r : Setting, r = s ∨ r.Precedes s ∨ r = .unaligned →
            options'.lookup r = options.lookup r) →
          (c.configure options').outcome = .error (.refused cause)) := by
  refine ⟨?_, ?_⟩
  · intro value hvalue hflag
    have hcause := (outcome_configure_of_invalidFlag hvalue hflag c).symm.trans h
    obtain rfl := Failure.refused.inj (Except.error.inj hcause)
    exact ⟨rfl, fun options' hvalue' => outcome_configure_of_invalidFlag hvalue' hflag c⟩
  · intro hflag
    rcases outcome_configure_eq_error_iff.mp h with hrelease | ⟨s, value, d, hvalue, hd, happly⟩
    · obtain ⟨r, hr, _⟩ := Outcome.mapError_eq_error_iff.mp hrelease
      exact absurd hr (releaseUnaligned_ne_error hflag c r)
    · refine ⟨s, value, congrArg Setting.name (setting_of_applyText happly), hvalue,
        exists_outcome_configure_before hd, ?_⟩
      intro options' hagree
      refine outcome_configure_eq_error_iff.mpr (Or.inr ⟨s, value, d, ?_, ?_, happly⟩)
      · exact (hagree s (Or.inl rfl)).trans hvalue
      · rw [configureUpTo_congr (hagree .unaligned (Or.inr (Or.inr rfl)))
          (fun r hr => hagree r (Or.inr (Or.inl hr)))]
        exact hd

/-- A batch with two bad options. The mode before them passes only since the last option counts. -/
def twoBadOptions : Options :=
  .ofPairs [("execution.checkpointing.min-pause", "soon"),
    ("execution.checkpointing.mode", "at-least-once"),
    ("execution.checkpointing.timeout", "0 s"),
    ("execution.checkpointing.unaligned", " False ")]

theorem first_failure_is_blamed_twoBadOptions :
    (configure twoBadOptions { default with unaligned := true }).outcome =
        .error (.refused .timeoutNotPositive) ∧
      ∃ s value, "timeout" = s.name ∧ twoBadOptions.lookup s = some value ∧
        (∃ t, (configure (twoBadOptions.before s) { default with unaligned := true }).outcome =
          .ok t) ∧
        ∀ options' : Options,
          (∀ r : Setting, r = s ∨ r.Precedes s ∨ r = .unaligned →
            options'.lookup r = twoBadOptions.lookup r) →
          (configure options' { default with unaligned := true }).outcome =
            .error (.refused .timeoutNotPositive) := by
  have hrefused : (configure twoBadOptions { default with unaligned := true }).outcome =
      .error (.refused .timeoutNotPositive) := rfl
  refine ⟨hrefused, (first_failure_is_blamed _ _ _ hrefused).2 ?_⟩
  intro value hvalue
  have hfalse : " False " = value := Option.some.inj hvalue
  subst hfalse
  exact ⟨false, by decide⟩

/-- An interval that would be refused, after a text that is no flag. -/
example :
    (configure
      (.ofPairs [("execution.checkpointing.interval", "0"),
        ("execution.checkpointing.unaligned", " maybe ")]) default).outcome =
      .error (.refused (.invalidFlag .unaligned "maybe")) := by rfl

end Config
end Checkpointing
