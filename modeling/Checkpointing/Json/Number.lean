import Checkpointing.Json.Error

/-!
# Numbers in JSON text

A number is whole if it has neither fraction nor exponent and fits 64 bits; all others are binary
numbers. These are made of the first digits that fit 64 bits, multiplied or divided by a power of ten,
each step rounded; so the last bit of a long number may be off.
-/

namespace Checkpointing.Json
set_option autoImplicit false
open Decimal (Binary64)

inductive Number where
  | integer (n : Int)
  | float (x : Decimal.Signed)
deriving DecidableEq, Repr

def isDigit (c : Char) : Bool := (Numeral.digit? c).isSome

def startsWithDigit (cs : List Char) : Bool := cs.head?.any isDigit

namespace Number

/-- The power of ten as a binary number; it has one up to 10^308. -/
def power (e : Nat) : Binary64 := (Binary64.ofNat? (Nat.pow 10 e)).getD .zero

/-- Divides by a power of ten in steps of at most 10^308. After `steps` of them nothing is left of
a number below 2^64. -/
def divideDown : (steps : Nat) → Binary64 → Nat → Binary64
  | 0, _, _ => .zero
  | steps + 1, x, e =>
    if e ≤ 308 then (x.div? (power e)).getD .zero
    else divideDown steps ((x.div? (power 308)).getD .zero) (e - 308)

/-- The number `digits * 10 ^ exponent`, or nothing if it is infinite. -/
def ofParts? (digits : Nat) (exponent : Int) : Option Binary64 :=
  let x := (Binary64.ofNat? digits).getD .zero
  if 0 ≤ exponent then
    if digits = 0 then some .zero
    else if exponent ≤ 308 then x.mul? (power exponent.toNat)
    else none
  else
    some (divideDown 3 x (-exponent).toNat)

def finish (negative : Bool) (digits : Nat) (exponent : Int) (rest : List Char) :
    Except Error (Number × List Char) :=
  match ofParts? digits exponent with
  | some x => .ok (.float ⟨negative, x⟩, rest)
  | none => .error .malformed

/-- Reads an exponent after its letter. An exponent of more than 31 bits leaves zero or nothing. -/
def exponentPart (negative : Bool) (digits : Nat) (exponent : Int) (cs : List Char) :
    Except Error (Number × List Char) :=
  let (down, cs) := match cs with
    | '+' :: cs => (false, cs)
    | '-' :: cs => (true, cs)
    | cs => (false, cs)
  if cs = [] then .error .truncated
  else if !startsWithDigit cs then .error .malformed
  else
    let n := (cs.takeWhile isDigit).foldl (fun n c => n * 10 + (Numeral.digit? c).getD 0) 0
    let rest := cs.dropWhile isDigit
    if n > 2147483647 then
      if digits ≠ 0 ∧ !down then .error .malformed else .ok (.float ⟨negative, .zero⟩, rest)
    else
      finish negative digits (if down then exponent - n else exponent + n) rest

/-- Ends a number that is not whole, after its digits. -/
def afterDigits (negative : Bool) (digits : Nat) (exponent : Int) :
    List Char → Except Error (Number × List Char)
  | 'e' :: cs | 'E' :: cs => exponentPart negative digits exponent cs
  | cs => finish negative digits exponent cs

/-- Continues digits with those of a fraction as long as they fit 64 bits; those that do not are passed
over. Gives the digits, how many were added, and the rest. -/
def fractionDigits (digits count : Nat) : List Char → Nat × Nat × List Char
  | [] => (digits, count, [])
  | c :: cs =>
    match Numeral.digit? c with
    | none => (digits, count, c :: cs)
    | some d =>
      if digits * 10 + d < 0x10000000000000000 then fractionDigits (digits * 10 + d) (count + 1) cs
      else (digits, count, cs.dropWhile isDigit)

/-- Reads a fraction after its point. -/
def fractionPart (negative : Bool) (digits : Nat) (exponent : Nat) (cs : List Char) :
    Except Error (Number × List Char) :=
  if cs = [] then .error .truncated
  else if !startsWithDigit cs then .error .malformed
  else
    let (digits, count, rest) := fractionDigits digits 0 cs
    afterDigits negative digits ((exponent : Int) - count) rest

/-- Ends a number after whole digits that fit 64 bits. There is no whole number -0. -/
def afterWhole (negative : Bool) (n : Nat) : List Char → Except Error (Number × List Char)
  | '.' :: cs => fractionPart negative n 0 cs
  | 'e' :: cs | 'E' :: cs => exponentPart negative n 0 cs
  | cs =>
    if !negative then .ok (.integer n, cs)
    else if n = 0 ∨ n > 0x8000000000000000 then finish true n 0 cs
    else .ok (.integer (-n), cs)

/-- Continues whole digits. Those beyond 64 bits are counted only. -/
def wholePart (negative : Bool) (n : Nat) : List Char → Except Error (Number × List Char)
  | [] => afterWhole negative n []
  | c :: cs =>
    match Numeral.digit? c with
    | none => afterWhole negative n (c :: cs)
    | some d =>
      if n * 10 + d < 0x10000000000000000 then wholePart negative (n * 10 + d) cs
      else
        let more := 1 + (cs.takeWhile isDigit).length
        match cs.dropWhile isDigit with
        | '.' :: rest => fractionPart negative n more rest
        | rest => afterDigits negative n more rest

/-- Reads a number after its sign. A zero is not followed by digits. -/
def magnitude (negative : Bool) : List Char → Except Error (Number × List Char)
  | [] => .error .truncated
  | '0' :: cs => if startsWithDigit cs then .error .malformed else afterWhole negative 0 cs
  | c :: cs =>
    match Numeral.digit? c with
    | none => .error .malformed
    | some d => wholePart negative d cs

def read : List Char → Except Error (Number × List Char)
  | '-' :: cs => magnitude true cs
  | cs => magnitude false cs

def starts (c : Char) : Bool := c == '-' || isDigit c

def found : Number → Found
  | .integer n => .integer n
  | .float x => .float x

end Number
end Checkpointing.Json
