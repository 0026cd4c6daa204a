import Checkpointing.Proofs.Json.Object

/-!
# What is printed is JSON

The form in which values are printed is one that the grammar allows, in any style that adds only blanks.
Members in the order of their names are the same members.
-/

namespace Checkpointing
set_option autoImplicit false

namespace Json

theorem isMagnitude_toDigits (n : Nat) : IsMagnitude (Nat.toDigits 10 n) := by
  have hdigits : IsDigits (Nat.toDigits 10 n) := by
    refine ⟨(Numeral.isDigits_toDigits n).1, fun c hc => ?_⟩
    rw [isDigit, Numeral.digit?_of_isDigit ((Numeral.isDigits_toDigits n).2 c hc)]
    rfl
  refine ⟨_, [], [], ⟨hdigits, ?_⟩, .inl rfl, .inl rfl, by simp⟩
  intro hzero
  by_cases hn : n = 0
  · rw [hn, Nat.toDigits_zero]
  · obtain ⟨c, ds, hds, _⟩ := Numeral.exists_toDigits_cons n
    rw [hds] at hzero
    exact absurd (Option.some.inj hzero) (Number.head_toDigits_ne_zero hn hds)

theorem isJson_number (z : Int) : IsJson (toString z).toList := by
  rw [Numeral.toList_toString_int]
  split
  · exact .leaf (.negative (isMagnitude_toDigits _))
  · exact .leaf (.number (isMagnitude_toDigits _))

theorem isJson_bool (b : Bool) : IsJson (toString b).toList := by
  cases b with
  | false => exact .leaf .false
  | true => exact .leaf .true

theorem isJson_string (s : String) : IsJson (stringChars s) :=
  .leaf (.string (spells_flatMap s.toList).isContents)

theorem Named.quoted {name : String} {head : List Char} (h : Named name head) :
    ∃ contents, Quoted contents head := by
  obtain ⟨contents, blanks, hspells, hblanks, rfl⟩ := h
  exact ⟨contents, hspells.isContents, blanks, hblanks, rfl⟩

/-- Members with names are members, however their names are spelt. -/
theorem Following.quoted {members : List (String × List Char)} {cs : List Char}
    (h : Following Named members cs) :
    ∃ parts : List (List Char × List Char), parts.map Prod.snd = members.map Prod.snd ∧
      Following Quoted parts cs := by
  induction h with
  | done hb => exact ⟨[], rfl, .done hb⟩
  | more hb hb' hhead hb'' _ ih =>
    obtain ⟨contents, hquoted⟩ := hhead.quoted
    obtain ⟨parts, hvalues, hparts⟩ := ih
    exact ⟨(contents, _) :: parts, congrArg _ hvalues, .more hb hb' hquoted hb'' hparts⟩

theorem Laid.quoted {members : List (String × List Char)} {cs : List Char}
    (h : Laid Named members cs) :
    ∃ parts : List (List Char × List Char), parts.map Prod.snd = members.map Prod.snd ∧
      Laid Quoted parts cs := by
  cases h with
  | none hb => exact ⟨[], rfl, .none hb⟩
  | some hb hhead hb' hrest =>
    obtain ⟨contents, hquoted⟩ := hhead.quoted
    obtain ⟨parts, hvalues, hparts⟩ := hrest.quoted
    exact ⟨(contents, _) :: parts, congrArg _ hvalues, .some hb hquoted hb' hparts⟩

theorem IsBraced.isJson {members : List (String × List Char)} {text : List Char}
    (h : IsBraced members text) (hvalues : ∀ m ∈ members, IsJson m.2) : IsJson text := by
  obtain ⟨cs, hlaid, rfl⟩ := h
  obtain ⟨parts, hsame, hparts⟩ := hlaid.quoted
  refine .map hparts fun part hpart => ?_
  have hvalue : part.2 ∈ members.map Prod.snd := hsame ▸ List.mem_map_of_mem hpart
  obtain ⟨m, hm, hpart⟩ := List.mem_map.mp hvalue
  exact hpart ▸ hvalues m hm

variable {style : Style}

mutual

theorem isJson_chars (hstyle : style.Spaced) (depth : Nat) : (j : Json) → IsJson (chars style depth j)
  | .null => by rw [chars_null]; exact .leaf .null
  | .bool b => by rw [chars_bool]; exact isJson_bool b
  | .number n => by rw [chars_number]; exact isJson_number n
  | .string s => by rw [chars_string]; exact isJson_string s
  | .object members => by
    by_cases hne : members = []
    · rw [hne, chars, if_pos (by rfl)]
      exact .map (.none blank_nil) (by simp)
    · refine (isBraced_chars hstyle depth hne).isJson fun m hm => ?_
      obtain ⟨member, hmember, rfl⟩ := List.mem_map.mp hm
      exact isJson_members hstyle (depth + 1) members member hmember

theorem isJson_members (hstyle : style.Spaced) (depth : Nat) :
    (members : List (String × Json)) → ∀ m ∈ members, IsJson (chars style depth m.2)
  | [], m, hm => absurd hm List.not_mem_nil
  | (name, value) :: members, m, hm => by
    rcases List.mem_cons.mp hm with rfl | hm
    · exact isJson_chars hstyle depth value
    · exact isJson_members hstyle depth members m hm

end

/-! ## Members in order -/

theorem sortedMembers_eq_map (members : List (String × Json)) :
    sortedMembers members = members.map fun m => (m.1, m.2.sorted) := by
  induction members with
  | nil => rw [sortedMembers, List.map_nil]
  | cons m members ih => rw [sortedMembers, ih, List.map_cons]

/-- An object whose members are put in order is an object with the same members. -/
theorem exists_isBraced_sorted (hstyle : style.Spaced) (depth : Nat)
    {members : List (String × Json)} (hne : members ≠ []) :
    ∃ ms, ms.Perm (members.map fun m => (m.1, chars style (depth + 1) m.2.sorted)) ∧
      IsBraced ms (chars style depth (Json.object members).sorted) := by
  have hperm := List.mergeSort_perm (sortedMembers members) fun a b => decide (a.1 ≤ b.1)
  have hsorted : (sortedMembers members).mergeSort (fun a b => decide (a.1 ≤ b.1)) ≠ [] := by
    intro hnil
    rw [hnil, sortedMembers_eq_map] at hperm
    exact hne (List.map_eq_nil_iff.mp hperm.nil_eq.symm)
  have hvalues : (sortedMembers members).map (fun m => (m.1, chars style (depth + 1) m.2)) =
      members.map fun m => (m.1, chars style (depth + 1) m.2.sorted) := by
    rw [sortedMembers_eq_map, List.map_map]
    rfl
  refine ⟨_, hvalues ▸ hperm.map _, ?_⟩
  rw [sorted]
  exact isBraced_chars hstyle depth hsorted

end Json
end Checkpointing
