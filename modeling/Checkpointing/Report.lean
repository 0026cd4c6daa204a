import Checkpointing.Config.Snapshot
import Checkpointing.Options.Configure

/-! Reports show the settings of a job to a reader, as a table of options or as JSON. -/

namespace Checkpointing.Report
set_option autoImplicit false

/-- A text filled up with blanks to a number of characters. -/
def padded (width : Nat) (s : String) : String :=
  s ++ String.ofList (List.replicate (width - s.length) ' ')

def rule (width : Nat) (c : Char) : String := String.ofList (List.replicate (width + 30) c)

/-- The width of the column of keys, in bytes. -/
def keyWidth (options : Options) : Nat :=
  options.keys.foldl (fun width key => max width key.utf8ByteSize) 0

def row (width : Nat) (key value : String) : String := padded width key ++ "  " ++ value

def summary (c : Config) : String :=
  "checkpointing: " ++ (if c.isEnabled then "enabled" else "disabled") ++
    "   externalized: " ++ toString c.retention.isExternalized ++
    "   effective tolerable failures: " ++ toString c.effectiveTolerableFailures

/-- The lines of the table: a head, the options in the order of their keys, and a summary. -/
def tableLines (name : String) (c : Config) : List String :=
  let options := c.toOptions
  let width := keyWidth options
  ["Checkpoint configuration for " ++ name, rule width '=', row width "Option" "Value",
   rule width '-'] ++
    options.toList.map (fun (key, value) => row width key value) ++
    [rule width '-', summary c]

def json (name : String) (c : Config) : Json :=
  (Json.object
    [("job", .string name), ("checkpointing_enabled", .bool c.isEnabled),
     ("externalized_checkpoints_enabled", .bool c.retention.isExternalized),
     ("effective_tolerable_failure_number", .number c.effectiveTolerableFailures.toNat),
     ("checkpoint_config", c.toJson)]).sorted

inductive Format where
  | table
  | json
deriving DecidableEq, Repr

def Format.ofName? : String → Option Format
  | "table" => some .table
  | "json" => some .json
  | _ => none

/-- The text of a report. Each of its lines is ended. -/
def text (name : String) (c : Config) : Format → String
  | .table => String.join ((tableLines name c).map (· ++ "\n"))
  | .json => (json name c).indented ++ "\n"

end Checkpointing.Report
