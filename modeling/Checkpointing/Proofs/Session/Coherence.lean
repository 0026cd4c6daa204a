import Checkpointing.Proofs.Environment
import Checkpointing.Proofs.Json.Record
import Checkpointing.Proofs.Session.Persistence

/-!
# Settings stay coherent

Whatever gives settings gives coherent ones, as long as it starts from such: jobs in JSON text, planned
environments, and each step of a session, as changes, batches and snapshots do.
-/

namespace Checkpointing
set_option autoImplicit false

namespace Job

theorem shape_keeps_coherent : shape.Keeps fun draft => ∀ c, draft.config = some c → c.Coherent where
  start := by simp [shape]
  read := by
    intro field hfield draft d cs rest hdraft h
    simp only [shape, List.mem_cons, List.not_mem_nil, or_false] at hfield
    rcases hfield with rfl | rfl
    · obtain ⟨name, rfl⟩ := Json.Field.exists_of_plain h
      exact hdraft
    · rw [Traced.outcome_bind_eq_ok_iff] at h
      obtain ⟨⟨c, cs'⟩, hread, h⟩ := h
      obtain ⟨rfl, rfl⟩ := Prod.mk.inj (Except.ok.inj h)
      intro c' hc'
      exact Option.some.inj hc' ▸ Config.coherent_of_readJson hread

theorem coherent_of_ofJson {text : String} {job : Job} (h : (ofJson text).outcome = .ok job) :
    job.config.Coherent := by
  obtain ⟨rest, hread⟩ := Json.exists_of_readDocument h
  obtain ⟨draft, hdraft, hfinish⟩ := shape_keeps_coherent.exists_finish hread
  change draft.finish = .ok job at hfinish
  rw [Draft.finish, Outcome.bind_eq_ok_iff] at hfinish
  obtain ⟨name, _, hfinish⟩ := hfinish
  rw [Outcome.bind_eq_ok_iff] at hfinish
  obtain ⟨c, hconfig, hfinish⟩ := hfinish
  rw [← Except.ok.inj hfinish]
  exact hdraft c (Json.required_eq_ok_iff.mp hconfig)

end Job

namespace Environment
variable {e e' : Environment}

theorem coherent_of_update {change : Change} (he : e.config.Coherent)
    (h : (e.update change).outcome = .ok e') : e'.config.Coherent := by
  obtain ⟨c, hc, rfl⟩ := outcome_onConfig_eq_ok_iff.mp h
  exact he.update hc

theorem coherent_of_configure {options : Options} (he : e.config.Coherent)
    (h : (e.configure options).outcome = .ok e') : e'.config.Coherent := by
  obtain ⟨c, hc, rfl⟩ := outcome_onConfig_eq_ok_iff.mp h
  exact he.configure hc

end Environment

namespace Plan

theorem coherent_of_makeNamed {α : Type} {make : α → Change} {named : Option α} {e e' : Environment}
    (he : e.config.Coherent) (h : (makeNamed make named e).outcome = .ok e') : e'.config.Coherent := by
  cases named with
  | none => exact Except.ok.inj h ▸ he
  | some a => exact Environment.coherent_of_update he (Traced.outcome_mapError_eq_ok_iff.mp h)

theorem coherent_of_build {p : Plan} {e : Environment} (h : p.build.outcome = .ok e) :
    e.config.Coherent := by
  simp only [build, Traced.outcome_bind_eq_ok_iff] at h
  obtain ⟨e₁, h₁, e₂, h₂, h₃⟩ := h
  have hc₁ := Environment.coherent_of_configure Config.coherent_default h₁
  exact coherent_of_makeNamed (coherent_of_makeNamed hc₁ h₂) h₃

end Plan

namespace Session

structure Coherent (s : Session) : Prop where
  config : s.config.Coherent
  saved : ∀ e ∈ s.saved, e.config.Coherent

def Answer.Coherent : Answer → Prop
  | .job j => j.config.Coherent
  | .done | .barrier _ | .options _ | .flag _ | .text _ | .index _ => True

variable {s s' : Session} {answer : Answer}

theorem Coherent.next (hs : s.Coherent) (step : Step) : (s.next step).Coherent := by
  have heverywhere : s.Everywhere (fun _ c => c.Coherent) [] := ⟨hs.config, hs.saved⟩
  have hkept := heverywhere.next Config.persists_coherent (fun _ => Config.coherent_default) step
  exact ⟨hkept.config, hkept.saved⟩

theorem config_of_take_job {step : Step} {job : Job}
    (h : (s.take step).outcome = .ok (s', .job job)) : job.config = s.config := by
  cases hwriting : writing? step with
  | some p =>
    obtain ⟨_, f, _, htake⟩ := performs_of_writing (s := s) hwriting
    rw [htake, onConfig] at h
    obtain ⟨c, _, h⟩ := Traced.outcome_bind_eq_ok_iff.mp h
    cases h
  | none =>
    cases step <;> simp only [writing?, reduceCtorEq] at hwriting
    case job =>
      cases h
      rfl
    case restore index =>
      obtain ⟨e, _, h⟩ := Traced.outcome_bind_eq_ok_iff.mp h
      cases h
    case equals index =>
      obtain ⟨e, _, h⟩ := Traced.outcome_bind_eq_ok_iff.mp h
      cases h
    all_goals cases h

/-- A step that is taken leads to coherent settings, and a job it builds has such. -/
theorem Coherent.take (hs : s.Coherent) {step : Step}
    (h : (Session.take s step).outcome = .ok (s', answer)) : s'.Coherent ∧ answer.Coherent := by
  have hnext : s.next step = s' := by rw [Session.next, h]
  refine ⟨hnext ▸ hs.next step, ?_⟩
  cases answer with
  | job job =>
    have hjob : job.config = s.config := config_of_take_job h
    exact show job.config.Coherent from hjob ▸ hs.config
  | done | barrier | options | flag | text | index => trivial

end Session
end Checkpointing
