import Checkpointing.Options.Basic
import Checkpointing.Text.Blank
import Checkpointing.Yaml.Document

/-!
# Options files

An options file is a YAML mapping. The keys on the way to a leaf, joined by points, are the key of an
option, and the leaf is its value; so `a.b: v` and `a: {b: v}` say the same. Of two leaves at one
path the later one holds.
-/

namespace Checkpointing.OptionsFile
set_option autoImplicit false

open Yaml (Value)

inductive Error where
  | yaml (error : Yaml.Error)
  | noMapping
  /-- a key that is no text, in the mapping at `path` -/
  | invalidKey (path : String)
  /-- a leaf that is no text -/
  | invalidValue (path : String)
deriving DecidableEq, Repr

/-- The messages of an error, from the outermost to the cause. -/
def Error.chain : Error → List String
  | .yaml error => [error.message]
  | .noMapping => ["expected a mapping at the top level"]
  | .invalidKey path =>
    [s!"invalid key under `{path}`", "expected a string, number or boolean"]
  | .invalidValue path =>
    [s!"invalid value for `{path}`", "expected a string, number or boolean"]

/-- The text of a string, number or truth value. -/
def text? : Value → Option String
  | .string s => some s
  | .bool b => some (toString b)
  | .integer n => some (toString n)
  | .real x => some x.text
  | .null | .sequence _ | .mapping _ | .tagged _ _ => none

/-- The path of an entry in the mapping at `path`. The outermost mapping has an empty path. -/
def extend (path key : String) : String := if path = "" then key else path ++ "." ++ key

mutual

/-- The leaves of a value at `path`, in order. -/
def leaves (path : String) : Value → Except Error (List (String × String))
  | .mapping entries => entryLeaves path entries
  | v =>
    match text? v with
    | some text => .ok [(path, text)]
    | none => .error (.invalidValue path)

def entryLeaves (path : String) : List (Value × Value) → Except Error (List (String × String))
  | [] => .ok []
  | (key, value) :: entries =>
    match text? key with
    | none => .error (.invalidKey path)
    | some text => do
      let first ← leaves (extend path text) value
      return first ++ (← entryLeaves path entries)

end

/-- The options that a value says. -/
def flatten : Value → Except Error Options
  | .null => .ok ∅
  | .mapping entries => (leaves "" (.mapping entries)).map Options.ofPairs
  | _ => .error .noMapping

/-- The options in the text of a file. Blank text has none. -/
def read (text : String) : Except Error Options :=
  if Text.trimChars text.toList = [] then .ok ∅
  else
    match Value.ofText text with
    | .ok v => flatten v
    | .error e => .error (.yaml e)

end Checkpointing.OptionsFile
