import Checkpointing.Json.Number
import Checkpointing.Json.Text

/-! Readers of single values of a wanted kind. Each gives the value and the rest of the text. A value of
another kind is read as far as it takes to say what it is. -/

namespace Checkpointing.Json
set_option autoImplicit false

def isSpace (c : Char) : Bool := c == ' ' || c == '\n' || c == '\t' || c == '\r'

def skipSpace (cs : List Char) : List Char := cs.dropWhile isSpace

def literal : List Char → List Char → Except Error (List Char)
  | [], cs => .ok cs
  | _ :: _, [] => .error .truncated
  | w :: ws, c :: cs => if c = w then literal ws cs else .error .malformed

/-- What the text starts with. Sequences and maps are not entered. -/
def found : List Char → Except Error Found
  | [] => .error .truncated
  | 'n' :: cs => (literal "ull".toList cs).map fun _ => .null
  | 't' :: cs => (literal "rue".toList cs).map fun _ => .bool true
  | 'f' :: cs => (literal "alse".toList cs).map fun _ => .bool false
  | '"' :: cs => (stringFrom .plain [] cs).map fun (s, _) => .string s
  | '[' :: _ => .ok .sequence
  | '\x7b' :: _ => .ok .map
  | c :: cs =>
    if Number.starts c then (Number.read (c :: cs)).map fun (n, _) => n.found
    else .error .malformed

/-- The error of finding something other than what is wanted. -/
def mismatch {α : Type} (wanted : String) (cs : List Char) : Except Error α := do
  throw (.data (.invalidType (← found cs) wanted))

/-- A kind of whole number: its name and its range. -/
structure Range where
  name : String
  low : Int
  high : Int

def Range.int64 : Range := ⟨"i64", -0x8000000000000000, 0x7FFFFFFFFFFFFFFF⟩
def Range.uint64 : Range := ⟨"u64", 0, 0xFFFFFFFFFFFFFFFF⟩
def Range.uint32 : Range := ⟨"u32", 0, 0xFFFFFFFF⟩

def readInteger (range : Range) (cs : List Char) : Except Error (Int × List Char) :=
  match skipSpace cs with
  | [] => .error .truncated
  | c :: cs =>
    if Number.starts c then do
      match ← Number.read (c :: cs) with
      | (.integer n, rest) =>
        if range.low ≤ n ∧ n ≤ range.high then pure (n, rest)
        else throw (.data (.invalidValue n range.name))
      | (.float x, _) => throw (.data (.invalidType (.float x) range.name))
    else mismatch range.name (c :: cs)

def readInt64 (cs : List Char) : Except Error (Int64 × List Char) :=
  (readInteger .int64 cs).map fun (n, rest) => (Int64.ofInt n, rest)

def readUInt64 (cs : List Char) : Except Error (UInt64 × List Char) :=
  (readInteger .uint64 cs).map fun (n, rest) => (UInt64.ofNat n.toNat, rest)

def readUInt32 (cs : List Char) : Except Error (UInt32 × List Char) :=
  (readInteger .uint32 cs).map fun (n, rest) => (UInt32.ofNat n.toNat, rest)

def readBool (cs : List Char) : Except Error (Bool × List Char) :=
  match skipSpace cs with
  | 't' :: cs => (literal "rue".toList cs).map (true, ·)
  | 'f' :: cs => (literal "alse".toList cs).map (false, ·)
  | cs => mismatch "a boolean" cs

/-- Reads a string; `wanted` says what it is for. -/
def readString (wanted : String) (cs : List Char) : Except Error (String × List Char) :=
  match skipSpace cs with
  | '"' :: cs => stringFrom .plain [] cs
  | cs => mismatch wanted cs

/-- Reads a value that may be null. -/
def readOptional {α : Type} (read : List Char → Except Error (α × List Char)) (cs : List Char) :
    Except Error (Option α × List Char) :=
  match skipSpace cs with
  | 'n' :: cs => (literal "ull".toList cs).map (none, ·)
  | cs => (read cs).map fun (a, rest) => (some a, rest)

/-- Reads a null that must be one. -/
def readUnit (cs : List Char) : Except Error (List Char) :=
  match skipSpace cs with
  | 'n' :: cs => literal "ull".toList cs
  | cs => mismatch "unit" cs

def readName (cs : List Char) : Except Error (String × List Char) :=
  match skipSpace cs with
  | [] => .error .truncated
  | '"' :: cs => stringFrom .plain [] cs
  | _ => .error .malformed

def readColon (cs : List Char) : Except Error (List Char) :=
  match skipSpace cs with
  | [] => .error .truncated
  | ':' :: cs => .ok cs
  | _ => .error .malformed

def variant {α : Type} (ofName? : String → Option α) (known : List String) (name : String) :
    Except Error α :=
  match ofName? name with
  | some a => .ok a
  | none => .error (.data (.unknownVariant name known))

/-- Reads a name out of a fixed set: a string, or an object whose only member has that name and is
null. -/
def readVariant {α : Type} (ofName? : String → Option α) (known : List String) (cs : List Char) :
    Except Error (α × List Char) :=
  match skipSpace cs with
  | [] => .error .truncated
  | '"' :: cs => do
    let (name, cs) ← stringFrom .plain [] cs
    pure (← variant ofName? known name, cs)
  | '\x7b' :: cs => do
    let (name, cs) ← readName cs
    let a ← variant ofName? known name
    let cs ← readUnit (← readColon cs)
    match skipSpace cs with
    | [] => throw .truncated
    | '\x7d' :: cs => pure (a, cs)
    | _ => throw .malformed
  | _ => .error .malformed

end Checkpointing.Json
