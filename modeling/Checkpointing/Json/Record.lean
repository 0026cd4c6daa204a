import Checkpointing.Json.Skip
import Checkpointing.Traced

/-!
# Records in JSON text

A record is an object with named members in any order, or a sequence of the members in their fixed
order. It is read from left to right into a draft, and the first thing that is wrong decides the error.
-/

namespace Checkpointing.Json
set_option autoImplicit false

/-- Reads a value from the front of a text and gives the rest. -/
abbrev Reader (α : Type) := List Char → Traced Error (α × List Char)

/-- A member: its name, whether a draft has it, and how it is read into a draft. -/
structure Field (δ : Type) where
  name : String
  isIn : δ → Bool
  read : δ → Reader δ

/-- A member that is read without events. -/
def Field.plain {δ α : Type} (name : String) (isIn : δ → Bool)
    (read : List Char → Except Error (α × List Char)) (put : δ → α → δ) : Field δ where
  name := name
  isIn := isIn
  read draft cs := .ofExcept ((read cs).map fun (a, rest) => (put draft a, rest))

structure Shape (δ α : Type) where
  /-- what is wanted, in the words of error messages -/
  wanted : String
  fields : List (Field δ)
  /-- what a sequence that is too short falls short of; without it a short sequence will do -/
  length : Option String
  /-- whether members of other names are refused -/
  closed : Bool
  start : δ
  /-- the record, once all members are read -/
  finish : δ → Except Error α

/-- Goes to the next item of a sequence, if there is one. -/
def nextItem? (first : Bool) (cs : List Char) : Except Error (Option (List Char)) :=
  match skipSpace cs with
  | [] => .error .truncated
  | ']' :: _ => .ok none
  | c :: cs =>
    if first then .ok (some (c :: cs))
    else if c ≠ ',' then .error .malformed
    else
      match skipSpace cs with
      | [] => .error .truncated
      | ']' :: _ => .error .malformed
      | cs => .ok (some cs)

def endItems (cs : List Char) : Except Error (List Char) :=
  match skipSpace cs with
  | [] => .error .truncated
  | ']' :: cs => .ok cs
  | _ => .error .malformed

/-- Reads the name of the next member of a map, if there is one. -/
def nextName? (first : Bool) (cs : List Char) : Except Error (Option (String × List Char)) :=
  match skipSpace cs with
  | [] => .error .truncated
  | '\x7d' :: _ => .ok none
  | c :: cs =>
    if first then (readName (c :: cs)).map some
    else if c = ',' then (readName cs).map some
    else .error .malformed

def endMembers (cs : List Char) : Except Error (List Char) :=
  match skipSpace cs with
  | [] => .error .truncated
  | '\x7d' :: cs => .ok cs
  | _ => .error .malformed

namespace Shape
variable {δ α : Type}

/-- Reads the members of a sequence in order; `index` of them have been read. -/
def readItems (shape : Shape δ α) (index : Nat) (draft : δ) : List (Field δ) → Reader δ
  | [], cs => pure (draft, cs)
  | field :: fields, cs => do
    match ← .ofExcept (nextItem? (index == 0) cs) with
    | some cs =>
      let (draft, cs) ← field.read draft cs
      readItems shape (index + 1) draft fields cs
    | none =>
      match shape.length with
      | some wanted => .fail (.data (.invalidLength index wanted))
      | none => pure (draft, cs)

/-- Reads the member of that name into a draft. -/
def readMember (shape : Shape δ α) (draft : δ) (name : String) (cs : List Char) :
    Traced Error (δ × List Char) :=
  match shape.fields.find? (·.name = name) with
  | some field =>
    if field.isIn draft then .fail (.data (.duplicateField name))
    else do field.read draft (← .ofExcept (readColon cs))
  | none =>
    if shape.closed then .fail (.data (.unknownField name (shape.fields.map (·.name))))
    else do
      let cs ← .ofExcept (readColon cs)
      return (draft, ← .ofExcept (skipValue cs))

/-- Reads the members of a map. Each takes at least one character. -/
def readMembers (shape : Shape δ α) : (steps : Nat) → (first : Bool) → δ → Reader δ
  | 0, _, _, _ => .fail .truncated
  | steps + 1, first, draft, cs => do
    match ← .ofExcept (nextName? first cs) with
    | none => pure (draft, cs)
    | some (name, cs) =>
      let (draft, cs) ← readMember shape draft name cs
      readMembers shape steps false draft cs

/-- Reads a record. What is wrong with it as a whole counts before what is wrong with its end. -/
def read (shape : Shape δ α) : Reader α := fun cs =>
  match skipSpace cs with
  | '[' :: cs => do
    let (draft, cs) ← shape.readItems 0 shape.start shape.fields cs
    let a ← .ofExcept (shape.finish draft)
    return (a, ← .ofExcept (endItems cs))
  | '\x7b' :: cs => do
    let (draft, cs) ← shape.readMembers (cs.length + 1) true shape.start cs
    let a ← .ofExcept (shape.finish draft)
    return (a, ← .ofExcept (endMembers cs))
  | cs => .ofExcept (mismatch shape.wanted cs)

end Shape

def readDocument {α : Type} (read : Reader α) (text : String) : Traced Error α := do
  let (a, rest) ← read text.toList
  if skipSpace rest = [] then pure a else .fail .malformed

/-- The member of that name, which must have been read. -/
def required {α : Type} (name : String) : Option α → Except Error α
  | some a => .ok a
  | none => .error (.data (.missingField name))

end Checkpointing.Json
