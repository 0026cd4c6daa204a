import Checkpointing.Proofs.Options.Totality

/-!
# The log of a batch

First a batch reports the keys that it passes over. Each option that is applied then writes the events of its
change, seen from the settings after it, and the report that it was applied. An option that fails writes
nothing, nor does anything after it.
-/

namespace Checkpointing.Config
set_option autoImplicit false
variable {options : Options} {c d : Config} {s : Setting}

theorem events_update_of_error {change : Change} {cause : Rejection}
    (h : (c.update change).outcome = .error cause) : (c.update change).events = [] := by
  cases hrefusal : c.refusal? change with
  | none =>
    rw [outcome_update_of_refusal_eq_none hrefusal] at h
    cases h
  | some found =>
    rw [update_of_refusal hrefusal]
    rfl

theorem events_applyOption_of_ok {value : String} (hvalue : options.lookup s = some value)
    (h : (applyOption options c s).outcome = .ok d) :
    (applyOption options c s).events = d.eventsOf (d.get s) ++ [.optionApplied s.key value] := by
  obtain ⟨change, rfl, hden, hnone, rfl⟩ := (outcome_applyOption_eq_ok_iff hvalue).mp h
  have hread := Change.read_eq_ok_iff.mpr ⟨rfl, hden⟩
  have hget : (c.set change).get change.setting = change := (get_set c change _).trans (if_pos rfl)
  have hupdate : c.update change = ⟨(c.set change).eventsOf change, .ok (c.set change)⟩ := by
    rw [update, hnone]
  rw [applyOption, hvalue, hget]
  dsimp only
  rw [Traced.events_bind_of_ok hread, hupdate]
  rfl

theorem events_applyOption_of_error {failure : Failure Rejection}
    (h : (applyOption options c s).outcome = .error failure) :
    (applyOption options c s).events = [] := by
  obtain ⟨value, hvalue, happly⟩ := outcome_applyOption_eq_error_iff.mp h
  rw [applyOption, hvalue]
  rcases Outcome.bind_eq_error_iff.mp happly with hread | ⟨change, hread, hupdate⟩
  · exact Traced.events_bind_of_error hread _
  · obtain ⟨cause, hcause, _⟩ := Outcome.mapError_eq_error_iff.mp hupdate
    refine (Traced.events_bind_of_ok hread _).trans ?_
    exact (Traced.events_bind_of_error hupdate _).trans (events_update_of_error hcause)

theorem events_configure_of_release_error {cause : Rejection}
    (h : releaseUnaligned options c = .error cause) :
    (c.configure options).events = options.unknownKeys.map .optionIgnored := by
  have hgiven : (Traced.ofExcept (Options.refusing (releaseUnaligned options c))).outcome =
      .error (.refused cause) := Outcome.mapError_eq_error_iff.mpr ⟨cause, h, rfl⟩
  rw [configure, Traced.events_bind_of_ok rfl, Traced.events_bind_of_error hgiven]
  exact List.append_nil _

theorem events_configure_of_release (h : releaseUnaligned options c = .ok d) :
    (c.configure options).events = options.unknownKeys.map .optionIgnored ++
      (Setting.all.foldlM (applyOption options) d).events := by
  have hgiven : (Traced.ofExcept (Options.refusing (releaseUnaligned options c))).outcome = .ok d :=
    Options.refusing_eq_ok_iff.mpr h
  rw [configure, Traced.events_bind_of_ok rfl, Traced.events_bind_of_ok hgiven]
  rfl

/-- The log ends with the last option before the one that fails. -/
theorem events_foldlM_of_error {value : String} {failure : Failure Rejection} {e : Config}
    (hdone : ((Setting.all.takeWhile (· != s)).foldlM (applyOption options) e).outcome = .ok d)
    (hvalue : options.lookup s = some value) (hfail : d.applyText s value = .error failure) :
    (Setting.all.foldlM (applyOption options) e).events =
      ((Setting.all.takeWhile (· != s)).foldlM (applyOption options) e).events := by
  obtain ⟨rest, hall⟩ := exists_all_eq_append s
  have happly : (applyOption options d s).outcome = .error failure :=
    outcome_applyOption_eq_error_iff.mpr ⟨value, hvalue, hfail⟩
  have hstop : ((s :: rest).foldlM (applyOption options) d).events = [] := by
    rw [List.foldlM_cons, Traced.events_bind_of_error happly, events_applyOption_of_error happly]
  conv_lhs => rw [hall]
  rw [Traced.events_foldlM_append hdone, hstop, List.append_nil]

end Checkpointing.Config
