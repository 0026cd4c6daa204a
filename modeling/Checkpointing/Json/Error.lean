import Checkpointing.Decimal.Layout
import Checkpointing.Rejection
import Checkpointing.Text.Quoted

/-! What can be wrong with a JSON text: it is malformed, it ends too early, or what it says does not
fit what is wanted. -/

namespace Checkpointing.Json
set_option autoImplicit false

/-- What stands in a text. -/
inductive Found where
  | null
  | bool (b : Bool)
  | integer (n : Int)
  | float (x : Decimal.Signed)
  | string (s : String)
  | sequence
  | map
deriving DecidableEq, Repr

def Found.text : Found → String
  | .null => "null"
  | .bool b => s!"boolean `{b}`"
  | .integer n => s!"integer `{n}`"
  | .float x => "floating point `" ++ Decimal.Layout.message.text x ++ "`"
  | .string s => "string " ++ Text.quoted s
  | .sequence => "sequence"
  | .map => "map"

/-- Why a well-formed text does not fit. -/
inductive Cause where
  | invalidType (found : Found) (wanted : String)
  | invalidValue (n : Int) (wanted : String)
  | invalidLength (n : Nat) (wanted : String)
  | unknownField (name : String) (known : List String)
  | unknownVariant (name : String) (known : List String)
  | duplicateField (name : String)
  | missingField (name : String)
  | durationOverflow
  | refused (cause : Rejection)
deriving DecidableEq, Repr

/-- The names that would have been right. -/
def choice : List String → String
  | [a] => s!"`{a}`"
  | [a, b] => s!"`{a}` or `{b}`"
  | names => "one of " ++ ", ".intercalate (names.map fun name => s!"`{name}`")

def Cause.message : Cause → String
  | .invalidType found wanted => s!"invalid type: {found.text}, expected {wanted}"
  | .invalidValue n wanted => s!"invalid value: integer `{n}`, expected {wanted}"
  | .invalidLength n wanted => s!"invalid length {n}, expected {wanted}"
  | .unknownField name known => s!"unknown field `{name}`, expected " ++ choice known
  | .unknownVariant name known => s!"unknown variant `{name}`, expected " ++ choice known
  | .duplicateField name => s!"duplicate field `{name}`"
  | .missingField name => s!"missing field `{name}`"
  | .durationOverflow => "overflow deserializing Duration"
  | .refused cause => cause.message

inductive Error where
  | malformed
  | truncated
  | data (cause : Cause)
deriving DecidableEq, Repr

end Checkpointing.Json
