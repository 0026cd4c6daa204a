import Checkpointing.Proofs.Config.Persistence

/-!
# Batches as simultaneous updates

A batch is applied one option after the other, yet it acts as one update: it is accepted exactly
when each of its options denotes a value in range and the settings with all these values in their
places are coherent, and then it gives these settings.
-/

namespace Checkpointing
set_option autoImplicit false

namespace Config

/-- The settings `t` are `c` with the value of each option of the batch in its place. -/
structure Replaces (options : Options) (c t : Config) : Prop where
  given : ∀ s value, options.lookup s = some value →
    (t.get s).Denotes (Text.trim value) ∧ (t.get s).InRange
  kept : ∀ s, options.lookup s = none → t.get s = c.get s

def optionSettings (options : Options) : List Setting :=
  Setting.all.filter fun s => (options.lookup s).isSome

theorem mem_optionSettings_iff {options : Options} {s : Setting} :
    s ∈ optionSettings options ↔ ∃ value, options.lookup s = some value := by
  simp [optionSettings, Setting.mem_all, Option.isSome_iff_exists]

theorem exists_get_eq (f : Setting → Change) (hf : ∀ s, (f s).setting = s) :
    ∃ t : Config, ∀ s, t.get s = f s := by
  refine ⟨(Setting.all.map f).foldl set default, fun s => ?_⟩
  rw [get_foldl_set f hf, if_pos (Setting.mem_all s)]

theorem exists_replaces {options : Options} {c : Config}
    (h : ∀ s value, options.lookup s = some value → ∃ change : Change, change.setting = s ∧
      change.Denotes (Text.trim value) ∧ change.InRange) : ∃ t, Replaces options c t := by
  have hvalue : ∀ s, ∃ change : Change, change.setting = s ∧
      (options.lookup s = none → change = c.get s) ∧
      ∀ value, options.lookup s = some value →
        change.Denotes (Text.trim value) ∧ change.InRange := by
    intro s
    cases hs : options.lookup s with
    | none => exact ⟨c.get s, setting_get c s, fun _ => rfl, by simp⟩
    | some value =>
      obtain ⟨change, hchange, hden⟩ := h s value hs
      exact ⟨change, hchange, by simp, by rintro _ ⟨⟩; exact hden⟩
  choose f hf hkept hgiven using hvalue
  obtain ⟨t, ht⟩ := exists_get_eq f hf
  exact ⟨t, fun s value hs => ht s ▸ hgiven s value hs, fun s hs => (ht s).trans (hkept s hs)⟩

theorem Replaces.unique {options : Options} {c t u : Config} (ht : Replaces options c t)
    (hu : Replaces options c u) : t = u := by
  apply ext_get
  intro s
  cases hs : options.lookup s with
  | none => rw [ht.kept s hs, hu.kept s hs]
  | some value =>
    have h₁ := Change.read_eq_ok_iff.mpr ⟨setting_get t s, (ht.given s value hs).1⟩
    have h₂ := Change.read_eq_ok_iff.mpr ⟨setting_get u s, (hu.given s value hs).1⟩
    exact Except.ok.inj (h₁.symm.trans h₂)

theorem applyOption_of_lookup_eq_none {options : Options} {s : Setting}
    (h : options.lookup s = none) (c : Config) : applyOption options c s = pure c := by
  rw [applyOption, h]

theorem outcome_applyOption_eq_ok_iff {options : Options} {c d : Config} {s : Setting}
    {value : String} (h : options.lookup s = some value) :
    (applyOption options c s).outcome = .ok d ↔ ∃ change, change.setting = s ∧
      change.Denotes (Text.trim value) ∧ c.refusal? change = none ∧ c.set change = d := by
  simp only [applyOption, h, Traced.outcome_bind_eq_ok_iff, Traced.outcome_ofExcept,
    Traced.outcome_mapError_eq_ok_iff, Change.read_eq_ok_iff, outcome_update_eq_ok_iff,
    Traced.outcome_log, Traced.pure_eq, Traced.outcome_ok]
  constructor
  · rintro ⟨change, ⟨hs, hden⟩, e, ⟨hnone, rfl⟩, _, _, he⟩
    exact ⟨change, hs, hden, hnone, Except.ok.inj he⟩
  · rintro ⟨change, hs, hden, hnone, rfl⟩
    exact ⟨change, ⟨hs, hden⟩, _, ⟨hnone, rfl⟩, (), trivial, rfl⟩

theorem releaseUnaligned_eq_ok_iff {options : Options} {c d : Config} :
    releaseUnaligned options c = .ok d ↔
      (options.lookup .unaligned = none ∧ d = c) ∨
      ∃ value on, options.lookup .unaligned = some value ∧
        Options.DenotesFlag (Text.trim value) on ∧
        d = if on then c else c.set (.unaligned false) := by
  unfold releaseUnaligned
  cases h : options.lookup .unaligned with
  | none =>
    rw [Outcome.pure_eq_ok_iff]
    simp [eq_comm]
  | some value =>
    simp only [Outcome.bind_eq_ok_iff, Outcome.pure_eq_ok_iff, Options.readFlag_eq_ok_iff]
    simp [eq_comm]

theorem outcome_configure_eq_ok_iff {options : Options} {c t : Config} :
    (c.configure options).outcome = .ok t ↔ ∃ d, releaseUnaligned options c = .ok d ∧
      (Setting.all.foldlM (applyOption options) d).outcome = .ok t := by
  simp only [configure, Traced.outcome_bind_eq_ok_iff, Traced.outcome_log,
    Traced.outcome_ofExcept, Options.refusing_eq_ok_iff]
  simp

theorem foldlM_applyOption (options : Options) (c : Config) :
    Setting.all.foldlM (applyOption options) c =
      (optionSettings options).foldlM (applyOption options) c := by
  rw [optionSettings, List.foldlM_filter]
  congr
  funext d s
  split
  · rfl
  · rename_i hs
    exact applyOption_of_lookup_eq_none (by simpa using hs) d

theorem replaces_of_outcome_configure {options : Options} {c t : Config}
    (h : (c.configure options).outcome = .ok t) : Replaces options c t := by
  obtain ⟨d, hd, hfold⟩ := outcome_configure_eq_ok_iff.mp h
  have hkept : ∀ s, options.lookup s = none → d.get s = c.get s := by
    intro s hs
    rcases releaseUnaligned_eq_ok_iff.mp hd with ⟨_, rfl⟩ | ⟨value, on, hvalue, _, rfl⟩
    · rfl
    · cases on
      · refine (get_set c _ s).trans (if_neg ?_)
        rintro rfl
        simp [Change.setting, hvalue] at hs
      · rfl
  have hall := Traced.foldlM_invariant (fun rest e => (∀ s, options.lookup s = none →
      e.get s = c.get s) ∧ ∀ s, s ∉ rest → ∀ value, options.lookup s = some value →
        (e.get s).Denotes (Text.trim value) ∧ (e.get s).InRange) ?_
    ⟨hkept, fun s hs => absurd (Setting.mem_all s) hs⟩ hfold
  · exact ⟨fun s => hall.2 s List.not_mem_nil, hall.1⟩
  · rintro r rest e e' ⟨hkept, hgiven⟩ hstep
    cases hr : options.lookup r with
    | none =>
      rw [applyOption_of_lookup_eq_none hr] at hstep
      obtain rfl := Except.ok.inj hstep
      refine ⟨hkept, fun s hs value hvalue => hgiven s ?_ value hvalue⟩
      rintro hmem
      rcases List.mem_cons.mp hmem with rfl | hmem
      · simp [hr] at hvalue
      · exact hs hmem
    | some text =>
      obtain ⟨change, rfl, hden, hnone, rfl⟩ := (outcome_applyOption_eq_ok_iff hr).mp hstep
      constructor
      · intro s hs
        rw [get_set, if_neg (by rintro rfl; simp [hr] at hs)]
        exact hkept s hs
      · intro s hs value hvalue
        rw [get_set]
        by_cases heq : s = change.setting
        · rw [if_pos heq]
          rw [heq, hr] at hvalue
          obtain rfl := Option.some.inj hvalue
          exact ⟨hden, (refusal?_eq_none_iff.mp hnone).1⟩
        · rw [if_neg heq]
          exact hgiven s (by simp [heq, hs]) value hvalue

/-- Unaligned checkpoints are released only where the batch turns them off anyway, and this makes the
order of the settings a fitting one. -/
theorem Replaces.approaches {options : Options} {c t : Config} (h : Replaces options c t) :
    ∃ d, releaseUnaligned options c = .ok d ∧ Approaches d t (optionSettings options) := by
  have hlast : (optionSettings options).Pairwise fun a b =>
      a = .unaligned → b ≠ .mode ∧ b ≠ .approximateRecovery :=
    List.Pairwise.filter _ (by decide)
  have henabled : .interval ∈ optionSettings options → 0 < t.interval := by
    intro hmem
    obtain ⟨value, hvalue⟩ := mem_optionSettings_iff.mp hmem
    exact (h.given .interval value hvalue).2
  have hkept : ∀ s, s ∉ optionSettings options → t.get s = c.get s := by
    intro s hs
    rw [mem_optionSettings_iff, not_exists] at hs
    exact h.kept s (Option.eq_none_iff_forall_ne_some.mpr hs)
  cases hu : options.lookup .unaligned with
  | none =>
    have hun := h.kept .unaligned hu
    simp only [get, Change.unaligned.injEq] at hun
    exact ⟨c, releaseUnaligned_eq_ok_iff.mpr (Or.inl ⟨hu, rfl⟩),
      fun s hs => (hkept s hs).symm, fun hc => hun ▸ hc, henabled, hlast⟩
  | some value =>
    refine ⟨_, releaseUnaligned_eq_ok_iff.mpr
      (Or.inr ⟨value, t.unaligned, hu, (h.given .unaligned value hu).1, rfl⟩), ?_, ?_, henabled, hlast⟩
    · intro s hs
      rw [hkept s hs]
      cases t.unaligned
      · refine (get_set c _ s).trans (if_neg ?_)
        rintro rfl
        exact hs (mem_optionSettings_iff.mpr ⟨value, hu⟩)
      · rfl
    · cases t.unaligned
      · exact id
      · exact fun _ => rfl

theorem Replaces.outcome_configure {options : Options} {c t : Config} (h : Replaces options c t)
    (ht : t.Coherent) : (c.configure options).outcome = .ok t := by
  obtain ⟨d, hd, happ⟩ := h.approaches
  refine outcome_configure_eq_ok_iff.mpr ⟨d, hd, ?_⟩
  rw [foldlM_applyOption]
  apply happ.outcome_foldlM ht
  intro s hs e hnone
  obtain ⟨value, hvalue⟩ := mem_optionSettings_iff.mp hs
  exact (outcome_applyOption_eq_ok_iff hvalue).mpr
    ⟨t.get s, setting_get t s, (h.given s value hvalue).1, hnone, rfl⟩

/-- A batch is one simultaneous, validated update. -/
theorem configure_iff_replaces (options : Options) (c : Config) (hc : c.Coherent) :
    ((∃ t, (c.configure options).outcome = .ok t) ↔
      (∀ s value, options.lookup s = some value → ∃ change : Change, change.setting = s ∧
        change.Denotes (Text.trim value) ∧ change.InRange) ∧
      ∀ t, Replaces options c t → t.Coherent) ∧
    ∀ t, (c.configure options).outcome = .ok t ↔ Replaces options c t ∧ t.Coherent := by
  have hiff : ∀ t, (c.configure options).outcome = .ok t ↔ Replaces options c t ∧ t.Coherent :=
    fun t => ⟨fun h => ⟨replaces_of_outcome_configure h, hc.configure h⟩,
      fun h => h.1.outcome_configure h.2⟩
  refine ⟨⟨?_, ?_⟩, hiff⟩
  · rintro ⟨t, ht⟩
    obtain ⟨hrep, hcoh⟩ := (hiff t).mp ht
    exact ⟨fun s value hs => ⟨t.get s, setting_get t s, hrep.given s value hs⟩,
      fun u hu => hu.unique hrep ▸ hcoh⟩
  · rintro ⟨hreads, hcoh⟩
    obtain ⟨t, hrep⟩ := exists_replaces hreads
    exact ⟨t, (hiff t).mpr ⟨hrep, hcoh t hrep⟩⟩

def leavingUnaligned : Options :=
  .ofPairs [("execution.checkpointing.mode", " at-least-once"),
    ("execution.checkpointing.unaligned", "False")]

theorem configure_iff_replaces_leaving_unaligned :
    ({ default with unaligned := true } : Config).Coherent ∧
      Replaces leavingUnaligned { default with unaligned := true }
        { default with mode := .atLeastOnce } :=
  ⟨by decide, (((configure_iff_replaces _ _ (by decide)).2 _).mp rfl).1⟩

end Config
end Checkpointing
