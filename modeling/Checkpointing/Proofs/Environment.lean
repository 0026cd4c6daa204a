import Checkpointing.Environment
import Checkpointing.Proofs.Outcome

/-! What is done to an environment is done to its settings, and its name is kept. -/

namespace Checkpointing
set_option autoImplicit false

namespace Environment
variable {ε : Type} {e e' : Environment} {f g : Config → Traced ε Config}

theorem outcome_onConfig_eq_ok_iff : (e.onConfig f).outcome = .ok e' ↔
    ∃ c, (f e.config).outcome = .ok c ∧ { e with config := c } = e' := by
  rw [onConfig, Traced.outcome_bind_eq_ok_iff]
  simp only [Traced.pure_eq, Traced.outcome_ok, Except.ok.injEq]

theorem outcome_onConfig_eq_error_iff {cause : ε} :
    (e.onConfig f).outcome = .error cause ↔ (f e.config).outcome = .error cause := by
  rw [onConfig, Traced.outcome_bind_eq_error_iff]
  apply or_iff_left
  rintro ⟨c, _, h⟩
  cases h

theorem outcome_onConfig_congr (h : (f e.config).outcome = (g e.config).outcome) :
    (e.onConfig f).outcome = (e.onConfig g).outcome := by
  simp only [onConfig, Traced.bind_eq, Traced.outcome_andThen, h]

end Environment

namespace Plan
variable {α : Type} {make : α → Change} {named : Option α} {e e' : Environment}

theorem outcome_makeNamed_eq_ok_iff : (makeNamed make named e).outcome = .ok e' ↔
    (∀ a, named = some a → e.config.refusal? (make a) = none) ∧
      { e with config := (named.map make).toList.foldl Config.set e.config } = e' := by
  cases named with
  | none => simp [makeNamed]
  | some a =>
    simp only [makeNamed, Traced.outcome_mapError_eq_ok_iff, Environment.update,
      Environment.outcome_onConfig_eq_ok_iff, Config.outcome_update_eq_ok_iff]
    constructor
    · rintro ⟨c, ⟨hnone, rfl⟩, he⟩
      exact ⟨fun b hb => Option.some.inj hb ▸ hnone, he⟩
    · rintro ⟨hnone, he⟩
      exact ⟨_, ⟨hnone a rfl, rfl⟩, he⟩

theorem outcome_makeNamed_ne_overflow (make : α → Change) (named : Option α) (e : Environment) :
    (makeNamed make named e).outcome ≠ .error .overflow := by
  cases named with
  | none => exact fun h => absurd h (by simp [makeNamed])
  | some a =>
    intro h
    obtain ⟨cause, _, hcause⟩ := Outcome.mapError_eq_error_iff.mp h
    exact absurd hcause (by simp)

end Plan
end Checkpointing
