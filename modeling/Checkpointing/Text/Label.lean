import Checkpointing.Text.Blank

/-! Labels name the members of a small set. A label is read without regard to the case of ASCII
letters, and a hyphen in it counts as an underscore. -/

namespace Checkpointing.Text
set_option autoImplicit false

/-- One character of a label as canonical names spell it. Only ASCII letters have a case here. -/
def labelChar (c : Char) : Char := if c = '-' then '_' else c.toUpper

/-- The canonical spelling of a label, blanks around it left out. -/
def label (s : String) : String := String.ofList ((trimChars s.toList).map labelChar)

/-- A text that is spelled as labels are after their reading, with no blank in it. -/
def IsCanonical (name : String) : Prop :=
  ∀ c ∈ name.toList, labelChar c = c ∧ isBlank c = false

-- The instance is named, for a search could settle on going through all characters there are.
instance (name : String) : Decidable (IsCanonical name) :=
  List.decidableBAll (fun c => labelChar c = c ∧ isBlank c = false) name.toList

@[simp] theorem toList_label (s : String) :
    (label s).toList = (trimChars s.toList).map labelChar := by
  simp [label]

theorem IsCanonical.label_eq_self {name : String} (h : IsCanonical name) : label name = name := by
  have htrim : trimChars name.toList = name.toList :=
    trimChars_eq_self (fun c hc => (h c (List.mem_of_mem_head? hc)).2)
      fun c hc => (h c (List.mem_of_mem_getLast? hc)).2
  have hspelled : name.toList.map labelChar = name.toList.map id :=
    List.map_congr_left fun c hc => (h c hc).1
  rw [label, htrim, hspelled, List.map_id, String.ofList_toList]

end Checkpointing.Text
