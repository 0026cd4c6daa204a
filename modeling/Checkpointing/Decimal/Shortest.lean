import Checkpointing.Decimal.Binary64

/-! The shortest decimal that reads back as a given binary number: the multiple of the largest power
of ten that rounds to the number. Of two such multiples it is the nearer one, and the even one of two
equally near. -/

namespace Checkpointing.Decimal
set_option autoImplicit false

/-- The decimal `digits * 10 ^ exponent`. -/
structure Scientific where
  digits : Nat
  exponent : Int
deriving DecidableEq, Repr

namespace Binary64

/-- Whether `digits` times `weight`, counted in quarters of the smallest unit, rounds to the number
scaled by `factor`. Below a power of two the numbers lie closer together. -/
def covers (x : Binary64) (factor weight digits : Nat) : Bool :=
  let below := if x.mantissa = 0x10000000000000 ∧ x.scale > 0 then 1 else 2
  let low := (4 * x.mantissa - below) * Nat.pow 2 x.scale * factor
  let high := (4 * x.mantissa + 2) * Nat.pow 2 x.scale * factor
  if x.mantissa % 2 = 0 then
    low ≤ digits * weight && digits * weight ≤ high
  else
    low < digits * weight && digits * weight < high

/-- The multiple of `10 ^ exponent` nearest to a number among those that round to it. -/
def multiple? (x : Binary64) (exponent : Int) : Option Nat :=
  let factor := Nat.pow 10 (-exponent).toNat
  let weight := 4 * unit * Nat.pow 10 exponent.toNat
  let value := 4 * x.numerator * factor
  let below := value / weight
  let rest := value % weight
  match covers x factor weight below, covers x factor weight (below + 1) with
  | false, false => none
  | true, false => some below
  | false, true => some (below + 1)
  | true, true =>
    if 2 * rest < weight ∨ (2 * rest = weight ∧ below % 2 = 0) then some below
    else some (below + 1)

/-- No number of the format has a multiple of 10^310 near it, and each has one of 10^-342. -/
def exponents : List Int := (List.range 652).map fun (i : Nat) => 309 - (i : Int)

/-- The shortest decimal of a number other than zero; zero has no digits. -/
def shortest (x : Binary64) : Scientific :=
  if x.mantissa = 0 then ⟨0, 0⟩
  else (exponents.findSome? fun e => (x.multiple? e).map (⟨·, e⟩)).getD ⟨0, 0⟩

end Binary64
end Checkpointing.Decimal
