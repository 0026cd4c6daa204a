import Checkpointing.Proofs.Options.Blame

/-! A batch of a single option reads the option's text and checks its value, and does no more. That
unaligned checkpoints are released ahead makes no difference to it. -/

namespace Checkpointing
set_option autoImplicit false

theorem Options.lookup_single (s : Setting) (text : String) (r : Setting) :
    (single (s.key, text)).lookup r = if r = s then some text else none := by
  rw [lookup, getElem?_single]
  by_cases hr : r = s
  · rw [if_pos hr, if_pos (congrArg Setting.key hr.symm)]
  · rw [if_neg hr, if_neg fun hkey => hr (Setting.key_injective hkey).symm]

namespace Config
variable {options : Options} {c d t : Config} {s : Setting} {text : String}

theorem applyText_eq_ok_iff : c.applyText s text = .ok t ↔ ∃ change : Change, change.setting = s ∧
    change.Denotes (Text.trim text) ∧ c.refusal? change = none ∧ c.set change = t := by
  simp only [applyText, Outcome.bind_eq_ok_iff, Outcome.mapError_eq_ok_iff, Change.read_eq_ok_iff,
    outcome_update_eq_ok_iff, and_assoc]

/-- A setting that is not checked against others takes every value in its range. -/
theorem applyText_eq_ok_iff_of_admits
    (hadmits : ∀ change : Change, change.setting = s → c.Admits change) :
    c.applyText s text = .ok t ↔ ∃ change : Change, change.setting = s ∧
      change.Denotes (Text.trim text) ∧ change.InRange ∧ c.set change = t := by
  rw [applyText_eq_ok_iff]
  refine exists_congr fun change => and_congr_right fun hs => and_congr_right fun _ => ?_
  rw [refusal?_eq_none_iff, and_iff_left (hadmits change hs)]

/-- After the release of unaligned checkpoints the options are applied one by one. -/
theorem outcome_configure_of_release (h : releaseUnaligned options c = .ok d) :
    (c.configure options).outcome =
      (optionSettings options).foldlM (fun c s => (applyOption options c s).outcome) d := by
  rw [← Traced.outcome_foldlM, ← foldlM_applyOption, configure]
  simp only [Traced.bind_eq, Traced.outcome_andThen, Traced.outcome_log, Traced.outcome_ofExcept, h]
  rfl

theorem optionSettings_single (s : Setting) (text : String) :
    optionSettings (.single (s.key, text)) = [s] := by
  have hfilter : ∀ r ∈ Setting.all, ((Options.single (s.key, text)).lookup r).isSome =
      decide (r = s) := by
    intro r _
    rw [Options.lookup_single]
    by_cases hr : r = s <;> simp [hr]
  rw [optionSettings, List.filter_congr hfilter]
  cases s <;> rfl

theorem outcome_configure_single_of_release
    (h : releaseUnaligned (.single (s.key, text)) c = .ok d) :
    (c.configure (.single (s.key, text))).outcome = d.applyText s text := by
  have hlookup := (Options.lookup_single s text s).trans (if_pos rfl)
  rw [outcome_configure_of_release h, optionSettings_single, List.foldlM_cons,
    outcome_applyOption hlookup]
  exact bind_pure _

theorem applyText_unaligned {on : Bool}
    (h : Options.readFlag .unaligned (Text.trim text) = .ok on) (c : Config) :
    c.applyText .unaligned text = (c.update (.unaligned on)).outcome.mapError .refused := by
  rw [applyText, Change.read, h]
  rfl

theorem outcome_configure_single (c : Config) (s : Setting) (text : String) :
    (c.configure (.single (s.key, text))).outcome = c.applyText s text := by
  by_cases hs : s = .unaligned
  · subst hs
    have hlookup := (Options.lookup_single .unaligned text .unaligned).trans (if_pos rfl)
    cases hflag : Options.readFlag .unaligned (Text.trim text) with
    | error cause =>
      simp only [configure, releaseUnaligned, hlookup, hflag, applyText, Change.read]
      rfl
    | ok on =>
      have hrelease : releaseUnaligned (.single (Setting.unaligned.key, text)) c =
          .ok (if on then c else c.set (.unaligned false)) := by
        rw [releaseUnaligned, hlookup]
        dsimp only
        rw [hflag]
        rfl
      rw [outcome_configure_single_of_release hrelease, applyText_unaligned hflag,
        applyText_unaligned hflag]
      cases on <;> rfl
  · refine outcome_configure_single_of_release (releaseUnaligned_eq_ok_iff.mpr (Or.inl ⟨?_, rfl⟩))
    exact (Options.lookup_single s text .unaligned).trans (if_neg (Ne.symm hs))

end Config
end Checkpointing
