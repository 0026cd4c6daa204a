import Checkpointing.Proofs.Options.Merging

/-!
# The setting to blame

The text of an option is read for one setting, and whatever is wrong with the text is blamed on that
setting. So is whatever speaks against its value, even where the values of other settings are the reason.
-/

namespace Checkpointing
set_option autoImplicit false

namespace Options
variable {s : Setting} {text : String} {cause : Rejection}

theorem setting_of_readFlag {r : Rejection} (h : readFlag s text = .error r) : r.setting = s := by
  unfold readFlag at h
  split at h
  · exact absurd h (by simp)
  · exact absurd h (by simp)
  · obtain rfl := Except.error.inj h
    rfl

theorem setting_of_readLabel {α : Type} {naming : Naming α} {unknown : String → Rejection}
    (hunknown : ∀ text, (unknown text).setting = s) {r : Rejection}
    (h : readLabel naming unknown text = .error r) : r.setting = s := by
  rw [readLabel_eq_error h]
  exact hunknown text

theorem setting_of_readDuration (h : readDuration s text = .error (.refused cause)) :
    cause.setting = s := by
  unfold readDuration at h
  split at h
  · exact absurd h (by simp)
  · obtain ⟨e, _, he⟩ := Outcome.mapError_eq_error_iff.mp h
    cases e with
    | refused e =>
      obtain rfl := Failure.refused.inj he
      rfl
    | overflow => exact absurd he (by simp)

theorem setting_of_readMillis (h : readMillis s text = .error (.refused cause)) :
    cause.setting = s := by
  rw [readMillis, Outcome.bind_eq_error_iff] at h
  rcases h with h | ⟨d, _, h⟩
  · exact setting_of_readDuration h
  · by_cases hwhole : d.IsWholeMillis
    · rw [if_neg (not_not.mpr hwhole)] at h
      split at h
      · exact absurd h (by simp [pure, Except.pure])
      · obtain rfl := Failure.refused.inj (Except.error.inj h)
        rfl
    · rw [if_pos hwhole] at h
      obtain rfl := Failure.refused.inj (Except.error.inj h)
      rfl

theorem setting_of_readInterval (h : readInterval text = .error (.refused cause)) :
    cause.setting = .interval := by
  rw [readInterval, Outcome.bind_eq_error_iff] at h
  rcases h with h | ⟨ms, _, h⟩
  · exact setting_of_readMillis h
  · split at h
    · exact absurd h (by simp [pure, Except.pure])
    · obtain rfl := Failure.refused.inj (Except.error.inj h)
      rfl

theorem setting_of_readNumber {α : Type} {read : String → Except Numeral.Error α}
    (h : readNumber s read text = .error (.refused cause)) : cause.setting = s := by
  obtain ⟨e, _, he⟩ := Outcome.mapError_eq_error_iff.mp h
  obtain rfl := Failure.refused.inj he
  rfl

theorem setting_of_refusing {α : Type} {x : Except Rejection α}
    (hx : ∀ r, x = .error r → r.setting = s) (h : refusing x = .error (.refused cause)) :
    cause.setting = s := by
  obtain ⟨r, hr, he⟩ := Outcome.mapError_eq_error_iff.mp h
  obtain rfl := Failure.refused.inj he
  exact hx r hr

end Options

open Options in
/-- A text that is refused is blamed on the setting it was read for. -/
theorem Change.setting_of_read {s : Setting} {text : String} {cause : Rejection}
    (h : Change.read s text = .error (.refused cause)) : cause.setting = s := by
  have hmake : ∀ {α : Type} {x : Except (Failure Rejection) α} {make : α → Change},
      (do return make (← x)) = .error (.refused cause) → x = .error (.refused cause) := by
    intro α x make hx
    rcases Outcome.bind_eq_error_iff.mp hx with hx | ⟨a, _, hx⟩
    · exact hx
    · exact absurd hx (by simp [pure, Except.pure])
  cases s with
  | interval => exact setting_of_readInterval (hmake h)
  | timeout => exact setting_of_readMillis (hmake h)
  | minPause => exact setting_of_readMillis (hmake h)
  | alignmentTimeout => exact setting_of_readDuration (hmake h)
  | mode => exact setting_of_refusing (fun _ => setting_of_readLabel fun _ => rfl) (hmake h)
  | retention => exact setting_of_refusing (fun _ => setting_of_readLabel fun _ => rfl) (hmake h)
  | failOnErrors => exact setting_of_refusing (fun _ => setting_of_readFlag) (hmake h)
  | approximateRecovery => exact setting_of_refusing (fun _ => setting_of_readFlag) (hmake h)
  | unaligned => exact setting_of_refusing (fun _ => setting_of_readFlag) (hmake h)
  | forceUnaligned => exact setting_of_refusing (fun _ => setting_of_readFlag) (hmake h)
  | maxConcurrent => exact setting_of_readNumber (hmake h)
  | tolerableFailures => exact setting_of_readNumber (hmake h)
  | ignoredCheckpoint => exact setting_of_readNumber (hmake h)

namespace Config
variable {options : Options} {c : Config} {s : Setting} {value : String} {cause : Rejection}

/-- What the text of an option does to settings: it is read, and then its value is checked. -/
def applyText (c : Config) (s : Setting) (value : String) : Except (Failure Rejection) Config := do
  let change ← Change.read s (Text.trim value)
  (c.update change).outcome.mapError .refused

theorem outcome_applyOption (h : options.lookup s = some value) :
    (applyOption options c s).outcome = c.applyText s value := by
  rw [applyOption, h, applyText]
  dsimp only
  cases hread : Change.read s (Text.trim value) with
  | error e => rfl
  | ok change =>
    rw [Outcome.ok_bind, Traced.outcome_bind_of_ok (Traced.outcome_ofExcept _)]
    cases hupdate : (c.update change).outcome with
    | error cause => simp [hupdate, Except.mapError, Except.bind]
    | ok d => simp [hupdate, Except.mapError, Except.bind]

theorem setting_of_outcome_update {change : Change}
    (h : (c.update change).outcome = .error cause) : cause.setting = change.setting := by
  cases hrefusal : c.refusal? change with
  | none =>
    rw [outcome_update_of_refusal_eq_none hrefusal] at h
    exact absurd h (by simp)
  | some found =>
    rw [update_of_refusal hrefusal] at h
    obtain rfl := Except.error.inj h
    exact setting_of_refusal hrefusal

theorem setting_of_applyText (h : c.applyText s value = .error (.refused cause)) :
    cause.setting = s := by
  rcases Outcome.bind_eq_error_iff.mp h with h | ⟨change, hread, h⟩
  · exact Change.setting_of_read h
  · obtain ⟨r, hr, he⟩ := Outcome.mapError_eq_error_iff.mp h
    obtain rfl := Failure.refused.inj he
    obtain ⟨rfl, _⟩ := Change.read_eq_ok_iff.mp hread
    exact setting_of_outcome_update hr

theorem lookup_of_releaseUnaligned (h : releaseUnaligned options c = .error cause) :
    ∃ value, options.lookup cause.setting = some value := by
  unfold releaseUnaligned at h
  cases hu : options.lookup .unaligned with
  | none =>
    rw [hu] at h
    exact absurd h (by simp [pure, Except.pure])
  | some value =>
    rw [hu] at h
    rcases Outcome.bind_eq_error_iff.mp h with h | ⟨on, _, h⟩
    · rw [Options.setting_of_readFlag h]
      exact ⟨value, hu⟩
    · exact absurd h (by simp [pure, Except.pure])

end Config
end Checkpointing
