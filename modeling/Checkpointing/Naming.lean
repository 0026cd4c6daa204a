import Checkpointing.Text.Label

/-! The values of a small set are read by their names. A name stands for its value as it is, and any label
with that canonical spelling denotes it. -/

namespace Checkpointing
set_option autoImplicit false

structure Naming (α : Type) where
  all : List α
  name : α → String
  mem_all : ∀ a, a ∈ all
  name_injective : ∀ a b, name a = name b → a = b
  isCanonical_name : ∀ a, Text.IsCanonical (name a)

namespace Naming
variable {α : Type} {n : Naming α} {text : String} {a : α}

def names (n : Naming α) : List String := n.all.map n.name

/-- The value of exactly that name. -/
def ofName? (n : Naming α) (text : String) : Option α := n.all.find? (n.name · = text)

/-- The value that a label denotes. -/
def ofLabel? (n : Naming α) (text : String) : Option α := n.ofName? (Text.label text)

theorem name_of_ofName? (h : n.ofName? text = some a) : n.name a = text := by
  have hname := List.find?_some h
  exact of_decide_eq_true hname

theorem ofName?_eq_some_iff : n.ofName? text = some a ↔ n.name a = text := by
  constructor
  · exact name_of_ofName?
  · intro h
    cases hfound : n.ofName? text with
    | none =>
      have hnone := List.find?_eq_none.mp hfound a (n.mem_all a)
      exact absurd (decide_eq_true h) hnone
    | some b => rw [n.name_injective b a ((name_of_ofName? hfound).trans h.symm)]

@[simp] theorem ofName?_name (n : Naming α) (a : α) : n.ofName? (n.name a) = some a :=
  ofName?_eq_some_iff.mpr rfl

end Naming
end Checkpointing
