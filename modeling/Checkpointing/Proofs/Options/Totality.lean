import Checkpointing.CommandLine
import Checkpointing.Proofs.Duration.Overflow
import Checkpointing.Proofs.Environment
import Checkpointing.Proofs.Options.Blame

/-!
# When a batch is given up

A batch is accepted or refused, unless the span text of a duration passes the largest duration in the
one way that is not refused. Then the batch is given up, provided that the options before this one have
not been refused. Planned environments and the validation of a file are given up in the same cases.
-/

namespace Checkpointing
set_option autoImplicit false

namespace Options

/-- A text that no numeral of 64 bits stands for, and whose spans pass the largest duration. -/
def Overflows (text : String) : Prop :=
  (∀ ms, Numeral.Denotes text.toList ms → 2 ^ 64 ≤ ms) ∧ Span.Overflows text

theorem refusing_ne_overflow {α : Type} (x : Except Rejection α) :
    refusing x ≠ .error .overflow := by
  intro h
  obtain ⟨cause, _, hcause⟩ := Outcome.mapError_eq_error_iff.mp h
  exact absurd hcause (by simp)

theorem readNumber_ne_overflow {α : Type} (s : Setting) (read : String → Except Numeral.Error α)
    (text : String) : readNumber s read text ≠ .error .overflow := by
  intro h
  obtain ⟨cause, _, hcause⟩ := Outcome.mapError_eq_error_iff.mp h
  exact absurd hcause (by simp)

theorem map_eq_overflow_iff {ε δ : Type} {f : ε → δ} {failure : Failure ε} :
    failure.map f = .overflow ↔ failure = .overflow := by
  cases failure <;> simp

theorem readDuration_eq_overflow_iff {s : Setting} {text : String} :
    readDuration s text = .error .overflow ↔ Overflows text := by
  unfold readDuration Overflows
  cases hread : Numeral.uint64 text with
  | ok ms =>
    have hms := Numeral.uint64_eq_ok_iff.mp hread
    have hlt := ms.toNat_lt
    refine iff_of_false (by simp) ?_
    rintro ⟨hbig, _⟩
    have := hbig _ hms
    omega
  | error cause =>
    have hbig : ∀ ms, Numeral.Denotes text.toList ms → 2 ^ 64 ≤ ms := by
      intro ms hms
      apply Nat.le_of_not_lt
      intro hlt
      have hval : (UInt64.ofNat ms).toNat = ms := UInt64.toNat_ofNat_of_lt' hlt
      rw [Numeral.uint64_eq_ok_iff.mpr (hval.symm ▸ hms)] at hread
      exact absurd hread (by simp)
    rw [and_iff_right hbig, ← Span.read_eq_overflow_iff]
    simp only [Outcome.mapError_eq_error_iff, map_eq_overflow_iff]
    simp

theorem readMillis_eq_overflow_iff {s : Setting} {text : String} :
    readMillis s text = .error .overflow ↔ Overflows text := by
  rw [readMillis, Outcome.bind_eq_error_iff, readDuration_eq_overflow_iff]
  apply or_iff_left
  rintro ⟨d, _, h⟩
  by_cases hwhole : d.IsWholeMillis
  · rw [if_neg (not_not.mpr hwhole)] at h
    split at h
    · exact absurd h (by simp [pure, Except.pure])
    · exact absurd h (by simp [throw, throwThe, MonadExceptOf.throw])
  · rw [if_pos hwhole] at h
    exact absurd h (by simp [throw, throwThe, MonadExceptOf.throw, bind, Except.bind])

theorem readInterval_eq_overflow_iff {text : String} :
    readInterval text = .error .overflow ↔ Overflows text := by
  rw [readInterval, Outcome.bind_eq_error_iff, readMillis_eq_overflow_iff]
  apply or_iff_left
  rintro ⟨ms, _, h⟩
  split at h
  · exact absurd h (by simp [pure, Except.pure])
  · exact absurd h (by simp [throw, throwThe, MonadExceptOf.throw])

end Options

def Setting.IsDuration (s : Setting) : Prop :=
  s = .interval ∨ s = .timeout ∨ s = .minPause ∨ s = .alignmentTimeout

open Options in
theorem Change.read_eq_overflow_iff {s : Setting} {text : String} :
    read s text = .error .overflow ↔ s.IsDuration ∧ Overflows text := by
  have hmap : ∀ {α : Type} {x : Except (Failure Rejection) α} {make : α → Change},
      (do return make (← x)) = .error .overflow ↔ x = .error .overflow := by
    intro α x make
    rw [Outcome.bind_eq_error_iff]
    apply or_iff_left
    rintro ⟨a, _, h⟩
    exact absurd h (by simp [pure, Except.pure])
  cases s <;> simp only [read, hmap]
  case interval => simp [Setting.IsDuration, readInterval_eq_overflow_iff]
  case timeout => simp [Setting.IsDuration, readMillis_eq_overflow_iff]
  case minPause => simp [Setting.IsDuration, readMillis_eq_overflow_iff]
  case alignmentTimeout => simp [Setting.IsDuration, readDuration_eq_overflow_iff]
  case maxConcurrent => simp [Setting.IsDuration, readNumber_ne_overflow]
  case tolerableFailures => simp [Setting.IsDuration, readNumber_ne_overflow]
  case ignoredCheckpoint => simp [Setting.IsDuration, readNumber_ne_overflow]
  all_goals simp [Setting.IsDuration, refusing_ne_overflow]

namespace Config
variable {options : Options} {c d : Config} {s : Setting}

/-- What a batch has made of settings when the option of `s` is due. -/
def configureUpTo (options : Options) (c : Config) (s : Setting) :
    Traced (Failure Rejection) Config := do
  let c ← .ofExcept (Options.refusing (releaseUnaligned options c))
  (Setting.all.takeWhile (· != s)).foldlM (applyOption options) c

theorem outcome_configureUpTo_eq_ok_iff : (configureUpTo options c s).outcome = .ok d ↔
    ∃ e, releaseUnaligned options c = .ok e ∧
      ((Setting.all.takeWhile (· != s)).foldlM (applyOption options) e).outcome = .ok d := by
  simp only [configureUpTo, Traced.outcome_bind_eq_ok_iff, Traced.outcome_ofExcept,
    Options.refusing_eq_ok_iff]

theorem outcome_applyOption_eq_error_iff {failure : Failure Rejection} :
    (applyOption options c s).outcome = .error failure ↔
      ∃ value, options.lookup s = some value ∧ c.applyText s value = .error failure := by
  cases hs : options.lookup s with
  | none => simp [applyOption_of_lookup_eq_none hs]
  | some value => simp [outcome_applyOption hs]

theorem applyText_eq_overflow_iff {value : String} :
    c.applyText s value = .error .overflow ↔
      s.IsDuration ∧ Options.Overflows (Text.trim value) := by
  rw [applyText, Outcome.bind_eq_error_iff, Change.read_eq_overflow_iff]
  apply or_iff_left
  rintro ⟨change, _, h⟩
  obtain ⟨cause, _, hcause⟩ := Outcome.mapError_eq_error_iff.mp h
  exact absurd hcause (by simp)

theorem applyText_cases (c : Config) (s : Setting) (value : String) :
    (∃ t, c.applyText s value = .ok t) ∨
      (∃ cause, c.applyText s value = .error (.refused cause) ∧ cause.option = s.name) ∨
      s.IsDuration ∧ Options.Overflows (Text.trim value) := by
  cases happly : c.applyText s value with
  | ok t => exact Or.inl ⟨t, rfl⟩
  | error failure =>
    cases failure with
    | refused cause =>
      exact Or.inr (Or.inl ⟨cause, rfl, congrArg Setting.name (setting_of_applyText happly)⟩)
    | overflow => exact Or.inr (Or.inr (applyText_eq_overflow_iff.mp happly))

theorem takeWhile_all_of_append {done rest : List Setting} (h : Setting.all = done ++ s :: rest) :
    Setting.all.takeWhile (· != s) = done := by
  have hnodup := Setting.nodup_all
  rw [h, List.nodup_append] at hnodup
  rw [h, List.takeWhile_append_of_pos, List.takeWhile_cons_of_neg (by simp), List.append_nil]
  intro r hr
  exact bne_iff_ne.mpr (hnodup.2.2 r hr s List.mem_cons_self)

theorem exists_all_eq_append (s : Setting) :
    ∃ rest, Setting.all = Setting.all.takeWhile (· != s) ++ s :: rest := by
  obtain ⟨done, rest, h⟩ := List.append_of_mem (Setting.mem_all s)
  exact ⟨rest, (takeWhile_all_of_append h).symm ▸ h⟩

/-- A batch fails where its text about unaligned checkpoints is read ahead, or else at one option,
after those before it have been applied. -/
theorem outcome_configure_eq_error_iff {failure : Failure Rejection} :
    (c.configure options).outcome = .error failure ↔
      Options.refusing (releaseUnaligned options c) = .error failure ∨
        ∃ s value d, options.lookup s = some value ∧ (configureUpTo options c s).outcome = .ok d ∧
          d.applyText s value = .error failure := by
  simp only [configure, outcome_configureUpTo_eq_ok_iff, Traced.outcome_bind_eq_error_iff,
    Traced.outcome_log, Traced.outcome_ofExcept, Options.refusing_eq_ok_iff, Traced.outcome_foldlM,
    Outcome.foldlM_eq_error_iff, outcome_applyOption_eq_error_iff]
  constructor
  · rintro (h | ⟨_, _, h | ⟨e, he, done, s, rest, d, hall, hdone, value, hvalue, happly⟩⟩)
    · exact absurd h (by simp)
    · exact Or.inl h
    · exact Or.inr ⟨s, value, d, hvalue, ⟨e, he, (takeWhile_all_of_append hall).symm ▸ hdone⟩, happly⟩
  · rintro (h | ⟨s, value, d, hvalue, ⟨e, he, hdone⟩, happly⟩)
    · exact Or.inr ⟨(), trivial, Or.inl h⟩
    · obtain ⟨rest, hall⟩ := exists_all_eq_append s
      exact Or.inr ⟨(), trivial, Or.inr ⟨e, he, _, s, rest, d, hall, hdone, value, hvalue, happly⟩⟩

theorem outcome_configure_eq_overflow_iff :
    (c.configure options).outcome = .error .overflow ↔ ∃ s value, s.IsDuration ∧
      options.lookup s = some value ∧ Options.Overflows (Text.trim value) ∧
      ∃ d, (configureUpTo options c s).outcome = .ok d := by
  rw [outcome_configure_eq_error_iff, or_iff_right (Options.refusing_ne_overflow _)]
  simp only [applyText_eq_overflow_iff]
  constructor
  · rintro ⟨s, value, d, hvalue, hd, hs, hover⟩
    exact ⟨s, value, hs, hvalue, hover, d, hd⟩
  · rintro ⟨s, value, hs, hvalue, hover, d, hd⟩
    exact ⟨s, value, d, hvalue, hd, hs, hover⟩

end Config

theorem Plan.outcome_build_eq_overflow_iff {p : Plan} :
    p.build.outcome = .error .overflow ↔
      (Config.ofOptions p.options).outcome = .error .overflow := by
  have hconfigure : ((Environment.fresh p.name).configure p.options).outcome = .error .overflow ↔
      (Config.ofOptions p.options).outcome = .error .overflow :=
    Environment.outcome_onConfig_eq_error_iff
  rw [build, Traced.outcome_bind_eq_error_iff, hconfigure]
  apply or_iff_left
  rintro ⟨e, _, h⟩
  rcases Traced.outcome_bind_eq_error_iff.mp h with h | ⟨e', _, h⟩
  · exact outcome_makeNamed_ne_overflow _ _ _ h
  · exact outcome_makeNamed_ne_overflow _ _ _ h

namespace CommandLine

theorem load_ne_overflow (read : FileReader) (file : String) : load read file ≠ .error .overflow := by
  unfold load
  split
  · simp
  · split
    · simp
    · intro h
      obtain ⟨cause, _, hcause⟩ := Outcome.mapError_eq_error_iff.mp h
      exact absurd hcause (by simp)

theorem outcome_validate_eq_overflow_iff {read : FileReader} {file name : String} :
    (validate read file name).outcome = .error .overflow ↔ ∃ options,
      load read file = .ok options ∧ (Config.ofOptions options).outcome = .error .overflow := by
  have hplan : ∀ options : Options,
      (((Plan.start name).note (.options options)).build.mapError (buildError file)).outcome =
        .error .overflow ↔ (Config.ofOptions options).outcome = .error .overflow := by
    intro options
    have hbuild := @Plan.outcome_build_eq_overflow_iff ((Plan.start name).note (.options options))
    rw [Config.ofOptions, ← Config.outcome_configure_congr (Options.lookup_emptyc_merge options)]
    refine Iff.trans ?_ hbuild
    rw [Traced.outcome_mapError, Outcome.mapError_eq_error_iff]
    constructor
    · rintro ⟨failure, hbuild, hfailure⟩
      cases failure with
      | refused cause => exact absurd hfailure (by simp [buildError])
      | overflow => exact hbuild
    · intro hbuild
      exact ⟨.overflow, hbuild, rfl⟩
  have hreport : ∀ e : Environment, (do
      .log (if e.config.isEnabled then [] else [.checkpointingDisabled])
      e.build : Traced Error Job).outcome ≠ .error .overflow := by
    intro e h
    rcases Traced.outcome_bind_eq_error_iff.mp h with h | ⟨_, _, h⟩
    · exact absurd h (by simp)
    · exact absurd h (by simp [Environment.build, Except.bind])
  unfold validate
  rw [Traced.outcome_bind_eq_error_iff, Traced.outcome_ofExcept,
    or_iff_right (load_ne_overflow read file)]
  refine exists_congr fun options => and_congr_right fun _ => ?_
  rw [Traced.outcome_bind_eq_error_iff, or_iff_right (by simp)]
  constructor
  · rintro ⟨_, _, h⟩
    rcases Traced.outcome_bind_eq_error_iff.mp h with h | ⟨e, _, h⟩
    · exact (hplan options).mp h
    · exact absurd h (hreport e)
  · intro h
    exact ⟨(), rfl, Traced.outcome_bind_eq_error_iff.mpr (Or.inl ((hplan options).mpr h))⟩

end CommandLine

theorem accepted_or_refused_iff {α : Type} {x : Except (Failure Rejection) α} :
    (∃ a, x = .ok a) ∨ (∃ cause, x = .error (.refused cause)) ↔ x ≠ .error .overflow := by
  cases x with
  | ok a => simp
  | error failure => cases failure <;> simp

/-- A batch is accepted or refused unless the text of a duration overflows and no option before it is
refused. An environment is planned and a file is validated in the same way as their options are
configured. -/
theorem Config.configure_total_iff (options : Options) (c : Config) (p : Plan)
    (read : CommandLine.FileReader) (file name : String) :
    ((∃ t, (c.configure options).outcome = .ok t) ∨
        (∃ cause, (c.configure options).outcome = .error (.refused cause)) ↔
      ¬∃ s value, s.IsDuration ∧ options.lookup s = some value ∧
        Options.Overflows (Text.trim value) ∧ ∃ d, (configureUpTo options c s).outcome = .ok d) ∧
    (p.build.outcome = .error .overflow ↔ (ofOptions p.options).outcome = .error .overflow) ∧
    ((CommandLine.validate read file name).outcome = .error .overflow ↔
      ∃ options, CommandLine.load read file = .ok options ∧
        (ofOptions options).outcome = .error .overflow) := by
  refine ⟨?_, Plan.outcome_build_eq_overflow_iff, CommandLine.outcome_validate_eq_overflow_iff⟩
  rw [accepted_or_refused_iff]
  exact not_congr outcome_configure_eq_overflow_iff

/-- Not every batch is accepted or refused. -/
theorem Config.not_configure_total : ¬ ∀ (options : Options) (c : Config), c.Coherent →
    (∃ t, (c.configure options).outcome = .ok t) ∨
      ∃ cause, (c.configure options).outcome = .error (.refused cause) := by
  intro h
  have hoverflow : (default.configure
      (.ofPairs [("execution.checkpointing.timeout", "18446744073709551615s 1000ms")])).outcome =
        .error .overflow := by rfl
  rcases h _ default coherent_default with ⟨t, ht⟩ | ⟨cause, hcause⟩
  · exact absurd (hoverflow.symm.trans ht) (by simp)
  · exact absurd (hoverflow.symm.trans hcause) (by simp)

end Checkpointing
