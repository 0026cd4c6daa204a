import Checkpointing.Json.Record
import Checkpointing.Proofs.Outcome

/-! What every member keeps holds of the draft from which a record is made, however the members are
given. -/

namespace Checkpointing.Json
set_option autoImplicit false

theorem exists_of_readDocument {α : Type} {read : Reader α} {text : String} {a : α}
    (h : (readDocument read text).outcome = .ok a) :
    ∃ rest, (read text.toList).outcome = .ok (a, rest) := by
  rw [readDocument, Traced.outcome_bind_eq_ok_iff] at h
  obtain ⟨⟨b, rest⟩, hread, h⟩ := h
  dsimp only at h
  split at h
  · exact ⟨rest, Except.ok.inj h ▸ hread⟩
  · exact absurd h (by simp)

theorem required_eq_ok_iff {α : Type} {name : String} {x : Option α} {a : α} :
    required name x = .ok a ↔ x = some a := by
  cases x <;> simp [required]

theorem Field.exists_of_plain {δ α : Type} {name : String} {isIn : δ → Bool}
    {read : List Char → Except Error (α × List Char)} {put : δ → α → δ} {draft d : δ}
    {cs rest : List Char}
    (h : ((plain name isIn read put).read draft cs).outcome = .ok (d, rest)) :
    ∃ a, put draft a = d := by
  obtain ⟨⟨a, cs'⟩, _, h⟩ := Outcome.map_eq_ok_iff.mp h
  exact ⟨a, (Prod.mk.inj h).1⟩

namespace Shape
variable {δ α : Type} {shape : Shape δ α} {holds : δ → Prop} {draft d : δ} {cs rest : List Char}

structure Keeps (shape : Shape δ α) (holds : δ → Prop) : Prop where
  start : holds shape.start
  read : ∀ field ∈ shape.fields, ∀ {draft d cs rest}, holds draft →
    (field.read draft cs).outcome = .ok (d, rest) → holds d

theorem Keeps.readItems (h : shape.Keeps holds) {fields : List (Field δ)} {index : Nat}
    (hfields : ∀ field ∈ fields, field ∈ shape.fields) (hdraft : holds draft)
    (hread : (shape.readItems index draft fields cs).outcome = .ok (d, rest)) : holds d := by
  induction fields generalizing index draft cs with
  | nil =>
    rw [Shape.readItems] at hread
    exact (Prod.mk.inj (Except.ok.inj hread)).1 ▸ hdraft
  | cons field fields ih =>
    rw [Shape.readItems, Traced.outcome_bind_eq_ok_iff] at hread
    obtain ⟨item, _, hread⟩ := hread
    cases item with
    | some cs' =>
      dsimp only at hread
      rw [Traced.outcome_bind_eq_ok_iff] at hread
      obtain ⟨⟨draft', cs''⟩, hfield, hread⟩ := hread
      have hdraft' := h.read field (hfields field List.mem_cons_self) hdraft hfield
      exact ih (fun f hf => hfields f (List.mem_cons_of_mem _ hf)) hdraft' hread
    | none =>
      dsimp only at hread
      split at hread
      · exact absurd hread (by simp)
      · exact (Prod.mk.inj (Except.ok.inj hread)).1 ▸ hdraft

theorem Keeps.readMember (h : shape.Keeps holds) {name : String} (hdraft : holds draft)
    (hread : (shape.readMember draft name cs).outcome = .ok (d, rest)) : holds d := by
  unfold Shape.readMember at hread
  split at hread
  · rename_i field hfield
    split at hread
    · exact absurd hread (by simp)
    · rw [Traced.outcome_bind_eq_ok_iff] at hread
      obtain ⟨cs', _, hread⟩ := hread
      exact h.read field (List.mem_of_find?_eq_some hfield) hdraft hread
  · split at hread
    · exact absurd hread (by simp)
    · rw [Traced.outcome_bind_eq_ok_iff] at hread
      obtain ⟨cs', _, hread⟩ := hread
      rw [Traced.outcome_bind_eq_ok_iff] at hread
      obtain ⟨cs'', _, hread⟩ := hread
      exact (Prod.mk.inj (Except.ok.inj hread)).1 ▸ hdraft

theorem Keeps.readMembers (h : shape.Keeps holds) {steps : Nat} {first : Bool}
    (hdraft : holds draft)
    (hread : (shape.readMembers steps first draft cs).outcome = .ok (d, rest)) : holds d := by
  induction steps generalizing first draft cs with
  | zero => exact absurd hread (by simp [Shape.readMembers])
  | succ steps ih =>
    rw [Shape.readMembers, Traced.outcome_bind_eq_ok_iff] at hread
    obtain ⟨next, _, hread⟩ := hread
    cases next with
    | none => exact (Prod.mk.inj (Except.ok.inj hread)).1 ▸ hdraft
    | some next =>
      obtain ⟨name, cs'⟩ := next
      dsimp only at hread
      rw [Traced.outcome_bind_eq_ok_iff] at hread
      obtain ⟨⟨draft', cs''⟩, hmember, hread⟩ := hread
      exact ih (h.readMember hdraft hmember) hread

theorem close_of_outcome {close : List Char → Except Error (List Char)} {a : α}
    (h : (do
      let a ← .ofExcept (shape.finish draft)
      return (a, ← .ofExcept (close cs)) : Traced Error (α × List Char)).outcome = .ok (a, rest)) :
    shape.finish draft = .ok a ∧ close cs = .ok rest := by
  rw [Traced.outcome_bind_eq_ok_iff] at h
  obtain ⟨b, hfinish, h⟩ := h
  rw [Traced.outcome_bind_eq_ok_iff] at h
  obtain ⟨cs', hclose, h⟩ := h
  obtain ⟨rfl, rfl⟩ := Prod.mk.inj (Except.ok.inj h)
  exact ⟨hfinish, hclose⟩

theorem Keeps.exists_finish (h : shape.Keeps holds) {a : α}
    (hread : (shape.read cs).outcome = .ok (a, rest)) :
    ∃ draft, holds draft ∧ shape.finish draft = .ok a := by
  unfold Shape.read at hread
  split at hread
  · rw [Traced.outcome_bind_eq_ok_iff] at hread
    obtain ⟨⟨draft, cs'⟩, hitems, hread⟩ := hread
    exact ⟨draft, h.readItems (fun _ hf => hf) h.start hitems, (close_of_outcome hread).1⟩
  · rw [Traced.outcome_bind_eq_ok_iff] at hread
    obtain ⟨⟨draft, cs'⟩, hmembers, hread⟩ := hread
    exact ⟨draft, h.readMembers h.start hmembers, (close_of_outcome hread).1⟩
  · unfold mismatch at hread
    rw [Traced.outcome_ofExcept, Outcome.bind_eq_ok_iff] at hread
    obtain ⟨_, _, hread⟩ := hread
    exact absurd hread (by simp [throw, throwThe, MonadExceptOf.throw])

end Shape
end Checkpointing.Json
