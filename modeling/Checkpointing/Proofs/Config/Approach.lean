import Checkpointing.Config.Snapshot
import Checkpointing.Proofs.Outcome

/-!
# Approaching coherent settings

Settings are changed one by one to the values that other settings, coherent ones, have. Each change
is checked against the settings on the way, which are neither the old nor the new ones. No change is
refused as long as the mode and approximate local recovery do not come after unaligned checkpoints
and these are not on longer than needed.
-/

namespace Checkpointing
set_option autoImplicit false

namespace Change

/-- The values that a setting may have whatever the others are. -/
def InRange : Change → Prop
  | .interval ms => 0 < ms
  | .timeout ms => 0 < ms
  | .maxConcurrent n => 1 ≤ n
  | .ignoredCheckpoint id => Config.noIgnoredCheckpoint ≤ id
  | .mode _ | .minPause _ | .failOnErrors _ | .tolerableFailures _ | .retention _
  | .approximateRecovery _ | .unaligned _ | .forceUnaligned _ | .alignmentTimeout _ => True

end Change

namespace Config

theorem Coherent.inRange_get {t : Config} (ht : t.Coherent) {s : Setting}
    (hs : s = .interval → 0 < t.interval) : (t.get s).InRange := by
  cases s <;> simp only [get, Change.InRange]
  · exact hs rfl
  · exact ht.timeout
  · exact ht.maxConcurrent
  · exact ht.ignoredCheckpoint

theorem get_foldl_set (f : Setting → Change) (hf : ∀ s, (f s).setting = s) (order : List Setting)
    (c : Config) (s : Setting) :
    ((order.map f).foldl set c).get s = if s ∈ order then f s else c.get s := by
  induction order generalizing c with
  | nil => simp
  | cons r order ih =>
    rw [List.map_cons, List.foldl_cons, ih, get_set, hf]
    by_cases hs : s ∈ order
    · simp [hs]
    · by_cases hr : s = r <;> simp [hs, hr]

/-- Whether the settings that a change is checked against let it pass. -/
def Admits (c : Config) : Change → Prop
  | .mode mode => c.unaligned = true → mode = .exactlyOnce
  | .approximateRecovery on => c.unaligned = true → on = false
  | .unaligned on => on = true → c.mode = .exactlyOnce ∧ c.approximateRecovery = false
  | .interval _ | .timeout _ | .minPause _ | .maxConcurrent _ | .failOnErrors _
  | .tolerableFailures _ | .retention _ | .forceUnaligned _ | .alignmentTimeout _
  | .ignoredCheckpoint _ => True

theorem refusal?_eq_none_iff {c : Config} {change : Change} :
    c.refusal? change = none ↔ change.InRange ∧ c.Admits change := by
  cases change with
  | interval ms => simp [refusal?, Change.InRange, Admits, Int64.not_le]
  | timeout ms => simp [refusal?, Change.InRange, Admits, UInt64.pos_iff_ne_zero]
  | maxConcurrent n =>
    rw [Change.InRange, Admits, and_true, ← UInt32.not_lt]
    simp only [refusal?, ite_eq_right_iff, reduceCtorEq, imp_false]
  | ignoredCheckpoint id => simp [refusal?, Change.InRange, Admits, Int64.not_lt]
  | mode mode =>
    simp only [refusal?, Change.InRange, Admits, ite_eq_right_iff, reduceCtorEq, imp_false]
    grind
  | approximateRecovery on =>
    simp only [refusal?, Change.InRange, Admits, ite_eq_right_iff, reduceCtorEq, imp_false]
    grind
  | unaligned on =>
    cases on with
    | false => simp [refusal?, Change.InRange, Admits]
    | true =>
      by_cases hmode : c.mode = .exactlyOnce
      · simp [refusal?, Change.InRange, Admits, hmode]
      · simp [refusal?, Change.InRange, Admits, hmode]
  | minPause | failOnErrors | tolerableFailures | retention | forceUnaligned | alignmentTimeout =>
    simp [refusal?, Change.InRange, Admits]

/-- The settings `c` differ from `t` at most in those of `order`, and can be changed to `t` in that
order. -/
structure Approaches (c t : Config) (order : List Setting) : Prop where
  agree : ∀ s, s ∉ order → c.get s = t.get s
  aligned : c.unaligned = true → t.unaligned = true
  enabled : .interval ∈ order → 0 < t.interval
  last : order.Pairwise fun a b => a = .unaligned → b ≠ .mode ∧ b ≠ .approximateRecovery

theorem Approaches.eq {c t : Config} (h : Approaches c t []) : c = t :=
  ext_get fun s => h.agree s List.not_mem_nil

theorem Approaches.admits {c t : Config} {s : Setting} {order : List Setting} (ht : t.Coherent)
    (h : Approaches c t (s :: order)) : c.Admits (t.get s) := by
  have hlast := (List.pairwise_cons.mp h.last).1
  cases s <;> simp only [get, Admits]
  · exact fun hc => ht.exactlyOnce (h.aligned hc)
  · exact fun hc => by simpa using fun hr => ht.noRecovery ⟨h.aligned hc, hr⟩
  · intro hu
    have hmode := h.agree .mode (by simpa using fun hm => (hlast _ hm rfl).1 rfl)
    have hrec := h.agree .approximateRecovery (by simpa using fun hm => (hlast _ hm rfl).2 rfl)
    simp only [get, Change.mode.injEq, Change.approximateRecovery.injEq] at hmode hrec
    rw [hmode, hrec]
    exact ⟨ht.exactlyOnce hu, by simpa using fun hr => ht.noRecovery ⟨hu, hr⟩⟩

theorem Approaches.refusal?_eq_none {c t : Config} {s : Setting} {order : List Setting}
    (ht : t.Coherent) (h : Approaches c t (s :: order)) : c.refusal? (t.get s) = none :=
  refusal?_eq_none_iff.mpr
    ⟨ht.inRange_get fun hs => h.enabled (hs ▸ List.mem_cons_self), h.admits ht⟩

theorem Approaches.set {c t : Config} {s : Setting} {order : List Setting}
    (h : Approaches c t (s :: order)) : Approaches (c.set (t.get s)) t order where
  agree r hr := by
    rw [get_set, setting_get]
    split
    · rename_i hrs; rw [hrs]
    · exact h.agree r (by simp_all)
  aligned hu := by
    by_cases hs : s = .unaligned
    · subst hs; exact hu
    · have hget := get_set c (t.get s) .unaligned
      rw [setting_get, if_neg (Ne.symm hs)] at hget
      simp only [get, Change.unaligned.injEq] at hget
      exact h.aligned (hget ▸ hu)
  enabled hi := h.enabled (List.mem_cons_of_mem s hi)
  last := (List.pairwise_cons.mp h.last).2

/-- Steps that make the values of coherent settings the changes, in a fitting order, reach them. -/
theorem Approaches.outcome_foldlM {ε : Type} {step : Config → Setting → Traced ε Config}
    {c t : Config} {order : List Setting} (ht : t.Coherent)
    (hstep : ∀ s ∈ order, ∀ d : Config, d.refusal? (t.get s) = none →
      (step d s).outcome = .ok (d.set (t.get s)))
    (h : Approaches c t order) : (order.foldlM step c).outcome = .ok t := by
  induction order generalizing c with
  | nil => rw [h.eq]; rfl
  | cons s order ih =>
    have hs := hstep s List.mem_cons_self c (h.refusal?_eq_none ht)
    rw [List.foldlM_cons, Traced.outcome_bind_of_ok hs]
    exact ih (fun r hr => hstep r (List.mem_cons_of_mem s hr)) h.set

theorem get_default_of_not_mem {c : Config} {s : Setting} (hs : s ∉ c.acceptanceOrder) :
    default.get s = c.get s := by
  unfold acceptanceOrder at hs
  by_cases hi : c.interval = disabledInterval
  · rw [if_pos hi] at hs
    cases s <;> first | exact absurd hs (by decide) | exact congrArg Change.interval hi.symm
  · rw [if_neg hi] at hs
    cases s <;> exact absurd hs (by decide)

/-- From the default settings all coherent ones can be reached, setting by setting. -/
theorem Coherent.approaches {c : Config} (hc : c.Coherent) :
    Approaches default c c.acceptanceOrder := by
  refine ⟨fun _ hs => get_default_of_not_mem hs, nofun, ?_, ?_⟩ <;> unfold acceptanceOrder <;>
    by_cases hi : c.interval = disabledInterval
  · rw [if_pos hi]
    exact fun hmem => absurd hmem (by decide)
  · exact fun _ => hc.interval.resolve_left hi
  · rw [if_pos hi]
    decide
  · rw [if_neg hi]
    decide

theorem Coherent.outcome_accept {c : Config} (hc : c.Coherent) : c.accept.outcome = .ok c :=
  hc.approaches.outcome_foldlM hc fun _ _ _ hnone => outcome_update_of_refusal_eq_none hnone

end Config
end Checkpointing
