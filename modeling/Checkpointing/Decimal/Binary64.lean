/-!
# Binary numbers of 64 bits

The finite numbers of the 64-bit binary format without their sign: a mantissa below 2^53 times a
power of two that is at least 2^-1074. All arithmetic is exact on natural numbers and rounded once,
to the nearest number, a tie to the even mantissa.
-/

namespace Checkpointing.Decimal
set_option autoImplicit false

/-- The number `mantissa * 2 ^ scale / 2 ^ 1074`. -/
structure Binary64 where
  mantissa : Nat
  scale : Nat
deriving DecidableEq, Repr

/-- The quotient rounded to the nearest natural number, a tie to the even one. -/
def roundDiv (n d : Nat) : Nat :=
  if 2 * (n % d) < d ∨ (2 * (n % d) = d ∧ n / d % 2 = 0) then n / d else n / d + 1

namespace Binary64

def zero : Binary64 := ⟨0, 0⟩

/-- The common denominator of all numbers of the format. -/
def unit : Nat := Nat.pow 2 1074

def numerator (x : Binary64) : Nat := x.mantissa * Nat.pow 2 x.scale

/-- The number nearest to `n / d`, or nothing where that is infinite. -/
def nearest? (n d : Nat) : Option Binary64 :=
  let scale := (n * unit / d).log2 - 52
  let mantissa := roundDiv (n * unit) (d * Nat.pow 2 scale)
  let x : Binary64 := if mantissa = 0x20000000000000 then ⟨0x10000000000000, scale + 1⟩ else ⟨mantissa, scale⟩
  if x.scale ≤ 2045 then some x else none

def mul? (x y : Binary64) : Option Binary64 :=
  nearest? (x.numerator * y.numerator) (unit * unit)

def div? (x y : Binary64) : Option Binary64 := nearest? x.numerator y.numerator

def ofNat? (n : Nat) : Option Binary64 := nearest? n 1

/-- The number nearest to `digits * 10 ^ exponent`. Exponents beyond the range are not computed
with. -/
def ofDecimal? (digits : Nat) (exponent : Int) : Option Binary64 :=
  if digits = 0 then
    some zero
  else if exponent > 400 then
    none
  else if exponent + digits.log2 / 3 < -400 then
    some zero
  else if 0 ≤ exponent then
    nearest? (digits * Nat.pow 10 exponent.toNat) 1
  else
    nearest? digits (Nat.pow 10 (-exponent).toNat)

example : ofNat? 1 = some ⟨2 ^ 52, 1022⟩ := by decide +kernel
example : ofNat? (2 ^ 53 + 1) = ofNat? (2 ^ 53) := by decide +kernel
example : ofDecimal? 1 400 = none := by decide +kernel
example : ofDecimal? 5 (-324) = some ⟨1, 0⟩ := by decide +kernel

end Binary64
end Checkpointing.Decimal
