/-! Decimal numerals of bounded size. A numeral is a run of ASCII digits with an optional sign; it is
read from left to right, and the first character or digit that cannot stand decides the error. -/

namespace Checkpointing.Numeral
set_option autoImplicit false

inductive Error where
  | empty
  | invalidDigit
  | tooLarge
  | tooSmall
deriving DecidableEq, Repr

def Error.message : Error → String
  | .empty => "cannot parse integer from empty string"
  | .invalidDigit => "invalid digit found in string"
  | .tooLarge => "number too large to fit in target type"
  | .tooSmall => "number too small to fit in target type"

def digit? (c : Char) : Option Nat :=
  if '0' ≤ c ∧ c ≤ '9' then some (c.toNat - '0'.toNat) else none

/-- Continues a magnitude `n` with more digits. `beyond` is the error of passing `limit`. -/
def digits (limit : Nat) (beyond : Error) : Nat → List Char → Except Error Nat
  | n, [] => .ok n
  | n, c :: cs =>
    match digit? c with
    | none => .error .invalidDigit
    | some d => if 10 * n + d ≤ limit then digits limit beyond (10 * n + d) cs else .error beyond

/-- A number of at most `limit`; a plus sign may stand before its digits. -/
def natural (limit : Nat) : List Char → Except Error Nat
  | [] => .error .empty
  | ['+'] => .error .invalidDigit
  | '+' :: cs => digits limit .tooLarge 0 cs
  | cs => digits limit .tooLarge 0 cs

/-- A number between `-low` and `high`. -/
def integer (low high : Nat) : List Char → Except Error Int
  | ['-'] => .error .invalidDigit
  | '-' :: cs => (digits low .tooSmall 0 cs).map fun (n : Nat) => -(n : Int)
  | cs => (natural high cs).map fun (n : Nat) => (n : Int)

def uint64 (s : String) : Except Error UInt64 :=
  (natural 0xFFFFFFFFFFFFFFFF s.toList).map UInt64.ofNat

def uint32 (s : String) : Except Error UInt32 :=
  (natural 0xFFFFFFFF s.toList).map UInt32.ofNat

def int64 (s : String) : Except Error Int64 :=
  (integer 0x8000000000000000 0x7FFFFFFFFFFFFFFF s.toList).map Int64.ofInt

end Checkpointing.Numeral
