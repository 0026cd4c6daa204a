import Checkpointing.Decimal.Shortest

/-! How the digits of a binary number are laid out. A point and a digit after it, or an exponent, are
always written. -/

namespace Checkpointing.Decimal
set_option autoImplicit false

structure Signed where
  negative : Bool
  magnitude : Binary64
deriving DecidableEq, Repr

/-- Decimal exponents from `lowest` to below `beyond` are written out in places, others as a power of
ten; `plus` stands before such an exponent that is not negative. -/
structure Layout where
  lowest : Int
  beyond : Int
  plus : String

def Layout.plain : Layout := ⟨-5, 16, ""⟩

def Layout.message : Layout := ⟨-5, 16, "+"⟩

namespace Layout

def zeros (n : Int) : String := String.ofList (List.replicate n.toNat '0')

/-- The text of a decimal without its sign. -/
def scientific (l : Layout) (d : Scientific) : String :=
  let digits := Nat.toDigits 10 d.digits
  let point := digits.length + d.exponent
  if point - 1 < l.lowest ∨ l.beyond ≤ point - 1 then
    let fraction := if digits.length > 1 then "." ++ String.ofList (digits.drop 1) else ""
    let sign := if 0 < point then l.plus else ""
    String.ofList (digits.take 1) ++ fraction ++ "e" ++ sign ++ toString (point - 1)
  else if 0 ≤ d.exponent then
    String.ofList digits ++ zeros d.exponent ++ ".0"
  else if 0 < point then
    String.ofList (digits.take point.toNat) ++ "." ++ String.ofList (digits.drop point.toNat)
  else
    "0." ++ zeros (-point) ++ String.ofList digits

def text (l : Layout) (x : Signed) : String :=
  (if x.negative then "-" else "") ++ l.scientific x.magnitude.shortest

end Layout
end Checkpointing.Decimal
