import Checkpointing.Json.Basic
import Checkpointing.Proofs.Json.Members

/-!
# Printed objects read back

An object is printed as its members with a comma between them. A record reads it by taking one member
after the other into its draft, and gives what it makes of the last draft.
-/

namespace Checkpointing.Json
set_option autoImplicit false

/-- Only blanks are added to what has to be written. -/
structure Style.Spaced (style : Style) : Prop where
  gap : ∀ depth, Blank (style.gap depth)
  colon : ∃ blanks, Blank blanks ∧ style.colon = ':' :: blanks

theorem Style.spaced_compact : compact.Spaced :=
  ⟨fun _ => blank_nil, [], blank_nil, rfl⟩

theorem Style.spaced_indented : indented.Spaced := by
  refine ⟨fun depth => ?_, [' '], ?_, rfl⟩
  · intro c hc
    rcases List.mem_cons.mp hc with rfl | hc
    · decide
    · exact (List.eq_of_mem_replicate hc).symm ▸ by decide
  · intro c hc
    exact (List.mem_singleton.mp hc).symm ▸ by decide

theorem intercalate_comma (m : List Char) (ms : List (List Char)) :
    [','].intercalate (m :: ms) = m ++ ms.flatMap (',' :: ·) := by
  induction ms generalizing m with
  | nil => simp
  | cons n ms ih =>
    rw [List.intercalate_cons_cons, ih, List.flatMap_cons, List.append_assoc]
    rfl

section Strings
variable {style : Style} {depth : Nat}

theorem reads_string (wanted s : String) :
    Reads (readString wanted) (chars style depth (.string s)) s := by
  intro blanks rest hblanks _
  rw [readString, chars_string, stringChars, List.append_assoc, List.cons_append,
    skipSpace_cons hblanks (by decide)]
  exact stringFrom_quoted (spells_flatMap s.toList) rest

theorem reads_variant {α : Type} {ofName? : String → Option α} {known : List String}
    {name : String} {a : α} (h : ofName? name = some a) :
    Reads (readVariant ofName? known) (chars style depth (.string name)) a := by
  rw [chars_string]
  exact reads_variant_string (spells_flatMap name.toList) h

end Strings

section Members
variable {style : Style} (hstyle : style.Spaced)
include hstyle

/-- What is printed before a value is a name, a colon and blanks. -/
theorem exists_named_colon (name : String) : ∃ head blanks, Named name head ∧ Blank blanks ∧
    stringChars name ++ style.colon = head ++ blanks := by
  obtain ⟨blanks, hblanks, hcolon⟩ := hstyle.colon
  refine ⟨stringChars name ++ [':'], blanks, ⟨_, [], spells_flatMap name.toList, blank_nil, ?_⟩,
    hblanks, ?_⟩
  · simp [stringChars]
  · simp [hcolon]

theorem following_memberChars (depth : Nat) {gap : List Char} (hgap : Blank gap)
    (members : List (String × Json)) :
    Following Named (members.map fun m => (m.1, chars style depth m.2))
      ((memberChars style depth members).flatMap (',' :: ·) ++ gap) := by
  induction members with
  | nil => exact .done hgap
  | cons member members ih =>
    obtain ⟨name, value⟩ := member
    obtain ⟨head, blanks, hhead, hblanks, hprinted⟩ := exists_named_colon hstyle name
    have hmore := @Following.more _ Named [] _ head blanks (chars style depth value) _ name _ blank_nil
      (hstyle.gap depth) hhead hblanks ih
    rw [← List.append_assoc head, ← hprinted] at hmore
    simpa only [List.map_cons, memberChars, List.flatMap_cons, List.append_assoc, List.cons_append,
      List.nil_append] using hmore

theorem isBraced_chars (depth : Nat) {members : List (String × Json)} (hne : members ≠ []) :
    IsBraced (members.map fun m => (m.1, chars style (depth + 1) m.2))
      (chars style depth (.object members)) := by
  cases members with
  | nil => exact absurd rfl hne
  | cons member members =>
    obtain ⟨name, value⟩ := member
    obtain ⟨head, blanks, hhead, hblanks, hprinted⟩ := exists_named_colon hstyle name
    have hrest := following_memberChars hstyle (depth + 1) (hstyle.gap depth) members
    have hlaid := @Laid.some _ Named _ head blanks (chars style (depth + 1) value) _ name _
      (hstyle.gap (depth + 1)) hhead hblanks hrest
    refine ⟨_, hlaid, ?_⟩
    rw [← List.append_assoc head, ← hprinted, chars, if_neg (by simp), memberChars, intercalate_comma]
    simp only [List.append_assoc, List.cons_append]

end Members

namespace Shape
variable {δ α : Type} {shape : Shape δ α} {style : Style} {depth : Nat} {draft d : δ}
  {members : List (String × Json)}

inductive Takes (shape : Shape δ α) (style : Style) (depth : Nat) :
    δ → List (String × Json) → δ → Prop where
  | nil (draft : δ) : Takes shape style depth draft [] draft
  | cons {field : Field δ} {draft draft' d : δ} {name : String} {value : Json}
      {members : List (String × Json)} :
      shape.fields.find? (·.name = name) = some field → field.isIn draft = false →
      Reads (fun cs => (field.read draft cs).outcome) (chars style depth value) draft' →
      Takes shape style depth draft' members d →
      Takes shape style depth draft ((name, value) :: members) d

theorem Takes.collects (h : Takes shape style depth draft members d) :
    Collects shape draft (members.map fun m => (m.1, chars style depth m.2)) d := by
  induction h with
  | nil draft => exact .nil draft
  | cons hfield hnew hread _ ih => exact .known hfield hnew hread ih

theorem Takes.read {a : α} (hstyle : style.Spaced) (hne : members ≠ [])
    (h : Takes shape style (depth + 1) shape.start members d) (hfinish : shape.finish d = .ok a) :
    Reads (fun cs => (shape.read cs).outcome) (chars style depth (.object members)) a :=
  h.collects.read hfinish (isBraced_chars hstyle depth hne)

end Shape
end Checkpointing.Json
