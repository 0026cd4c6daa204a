import Checkpointing.Decimal.Layout

/-! The values of YAML nodes. -/

namespace Checkpointing.Yaml
set_option autoImplicit false

inductive Real where
  | finite (x : Decimal.Signed)
  | infinite (negative : Bool)
  | notANumber
deriving DecidableEq, Repr

inductive Value where
  | null
  | bool (b : Bool)
  | integer (n : Int)
  | real (x : Real)
  | string (s : String)
  | sequence (items : List Value)
  | mapping (entries : List (Value × Value))
  /-- a value that has a tag of its own -/
  | tagged (tag : String) (value : Value)

def Real.text : Real → String
  | .finite x => Decimal.Layout.plain.text x
  | .infinite false => ".inf"
  | .infinite true => "-.inf"
  | .notANumber => ".nan"

/-- Zeros of both signs are the same number. -/
def Real.same : Real → Real → Bool
  | .finite x, .finite y => x == y || (x.magnitude.mantissa == 0 && y.magnitude.mantissa == 0)
  | x, y => x == y

namespace Value

/-- A tag without the mark of exclamation that it may start with. -/
def bareTag (tag : String) : String :=
  match tag.toList with
  | '!' :: c :: cs => String.ofList (c :: cs)
  | _ => tag

mutual

/-- Whether two values are the same as keys. The order of a mapping's entries does not matter. -/
def same : Value → Value → Bool
  | .null, .null => true
  | .bool a, .bool b => a == b
  | .integer m, .integer n => m == n
  | .real x, .real y => x.same y
  | .string s, .string t => s == t
  | .sequence xs, .sequence ys => sameItems xs ys
  | .mapping xs, .mapping ys => xs.length == ys.length && sameEntries xs ys
  | .tagged s x, .tagged t y => bareTag s == bareTag t && same x y
  | _, _ => false

def sameItems : List Value → List Value → Bool
  | [], [] => true
  | x :: xs, y :: ys => same x y && sameItems xs ys
  | _, _ => false

/-- Whether each entry of the first list is in the second. -/
def sameEntries : List (Value × Value) → List (Value × Value) → Bool
  | [], _ => true
  | (k, v) :: xs, ys => ys.any (fun (l, w) => same k l && same v w) && sameEntries xs ys

end

end Value
end Checkpointing.Yaml
