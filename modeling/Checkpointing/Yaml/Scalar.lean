import Checkpointing.Json.Text
import Checkpointing.Yaml.Error
import Checkpointing.Yaml.Tag
import Checkpointing.Yaml.Value

/-!
# Plain scalars as values

A plain scalar is null, a truth value, an integer, a real number or else a string. Integers are decimal,
or after `0x`, `0o` or `0b` in another base; digits after a leading zero are no number.
-/

namespace Checkpointing.Yaml.Scalar
set_option autoImplicit false

def isNull (cs : List Char) : Bool :=
  ["null", "Null", "NULL", "~"].contains (String.ofList cs)

def bool? (cs : List Char) : Option Bool :=
  if ["true", "True", "TRUE"].contains (String.ofList cs) then some true
  else if ["false", "False", "FALSE"].contains (String.ofList cs) then some false
  else none

/-- The digit's value in a base of at most sixteen. -/
def digit? (base : Nat) (c : Char) : Option Nat := (Json.hexDigit? c).filter (· < base)

def digits? (base : Nat) : List Char → Option Nat
  | [] => none
  | c :: cs => (c :: cs).foldlM (fun n c => (digit? base c).map (n * base + ·)) 0

/-- The value of digits in the base that their first characters name. -/
def prefixed? : List Char → Option Nat
  | '0' :: 'x' :: cs => digits? 16 cs
  | '0' :: 'o' :: cs => digits? 8 cs
  | '0' :: 'b' :: cs => digits? 2 cs
  | _ => none

/-- A zero with more digits after it. -/
def isPadded : List Char → Bool
  | '0' :: c :: cs => (c :: cs).all Char.isDigit
  | _ => false

/-- Digits in some base without a sign. -/
def natural? (cs : List Char) : Option Nat :=
  match prefixed? cs with
  | some n => some n
  | none => if isPadded cs then none else digits? 10 cs

def integer? : List Char → Option Int
  | '+' :: cs => (natural? cs).map Int.ofNat
  | '-' :: cs => (natural? cs).map fun n => -(n : Int)
  | cs => (natural? cs).map Int.ofNat

/-- What an integer's size makes of it: a value, an error, or nothing if it is too large even for 128
bits. -/
def ofInteger? (cs : List Char) (n : Int) : Option (Except Error Value) :=
  if -0x8000000000000000 ≤ n ∧ n < 0x10000000000000000 then some (.ok (.integer n))
  else if -Int.pow 2 127 ≤ n ∧ n < Int.pow 2 128 then some (.error (.integerTooLarge (String.ofList cs)))
  else none

/-- A decimal with an optional fraction and exponent. Digits stand before or after the point. -/
def decimal? (cs : List Char) : Option (Nat × Int) :=
  let whole := cs.takeWhile Char.isDigit
  let rest := cs.dropWhile Char.isDigit
  let (fraction, rest) := match rest with
    | '.' :: rest => (rest.takeWhile Char.isDigit, rest.dropWhile Char.isDigit)
    | rest => ([], rest)
  match digits? 10 (whole ++ fraction) with
  | none => none
  | some n =>
    let shift : Int := -fraction.length
    match rest with
    | [] => some (n, shift)
    | e :: rest =>
      if e = 'e' ∨ e = 'E' then
        match rest with
        | '-' :: rest => (digits? 10 rest).map fun k => (n, shift - k)
        | '+' :: rest => (digits? 10 rest).map fun k => (n, shift + k)
        | rest => (digits? 10 rest).map fun k => (n, shift + k)
      else none

/-- A finite number, rounded to the nearest binary one. -/
def finite? (negative : Bool) (cs : List Char) : Option Real := do
  let (n, e) ← decimal? cs
  let x ← Decimal.Binary64.ofDecimal? n e
  return .finite ⟨negative, x⟩

def isInfinity (cs : List Char) : Bool := [".inf", ".Inf", ".INF"].contains (String.ofList cs)

def real? (cs : List Char) : Option Real :=
  if [".nan", ".NaN", ".NAN"].contains (String.ofList cs) then some .notANumber
  else
    match cs with
    | '+' :: cs => if isInfinity cs then some (.infinite false) else finite? false cs
    | '-' :: cs => if isInfinity cs then some (.infinite true) else finite? true cs
    | cs => if isInfinity cs then some (.infinite false) else finite? false cs

/-- Digits after a leading zero, with or without a sign. -/
def isPaddedNumber : List Char → Bool
  | '+' :: cs | '-' :: cs => isPadded cs
  | cs => isPadded cs

/-- The value of a plain scalar that no tag decides. -/
def resolve (cs : List Char) : Except Error Value :=
  if cs = [] ∨ isNull cs then .ok .null
  else
    match bool? cs with
    | some b => .ok (.bool b)
    | none =>
      match (integer? cs).bind (ofInteger? cs) with
      | some v => v
      | none =>
        match if isPaddedNumber cs then none else real? cs with
        | some x => .ok (.real x)
        | none => .ok (.string (String.ofList cs))

/-- The value of a scalar. The standard tags of scalars decide what it is; other tags make strings. -/
def value (tag : Option Tag) (text : String) (plain : Bool) : Except Error Value :=
  let cs := text.toList
  match tag.map Tag.text? with
  | none => if plain then resolve cs else .ok (.string text)
  | some (some "tag:yaml.org,2002:bool") =>
    match bool? cs with
    | some b => .ok (.bool b)
    | none => .error (.illTagged text)
  | some (some "tag:yaml.org,2002:int") =>
    match (integer? cs).bind (ofInteger? cs) with
    | some v => v
    | none => .error (.illTagged text)
  | some (some "tag:yaml.org,2002:float") =>
    match real? cs with
    | some x => .ok (.real x)
    | none => .error (.illTagged text)
  | some (some "tag:yaml.org,2002:null") => if isNull cs then .ok .null else .error (.illTagged text)
  | some _ => .ok (.string text)

end Checkpointing.Yaml.Scalar
