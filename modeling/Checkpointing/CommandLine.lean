import Checkpointing.Environment
import Checkpointing.OptionsFile
import Checkpointing.Report

/-!
# The command line

`validate FILE` checks an options file and reports the settings of the job that it gives; `defaults`
reports the default settings. `--format table` or `--format json` chooses the form of the report, and
`--name` the name of the job.
-/

namespace Checkpointing.CommandLine
set_option autoImplicit false

open Report (Format)

inductive Command where
  | validate (file name : String) (format : Format)
  | defaults (format : Format)
deriving DecidableEq, Repr

inductive Error where
  /-- arguments that are no command -/
  | usage
  /-- the messages of a failure, from the outermost to the cause -/
  | reported (chain : List String)
  /-- a sum of durations that passed the largest one -/
  | overflow
deriving DecidableEq, Repr

def Error.exitCode : Error → UInt32
  | .usage => 2
  | .reported _ => 1
  | .overflow => 101

/-! ## Arguments -/

/-- Options with their values, and all other arguments. -/
structure Arguments where
  options : List (String × String)
  others : List String
deriving DecidableEq, Repr

/-- Whether an argument looks like an option. A hyphen alone does not. -/
def isOption (arg : String) : Bool := arg.toList.head? = some '-' && arg ≠ "-"

/-- The name of a long option, and the value after an equals sign in the same argument. -/
def splitOption? (arg : String) : Option (String × Option String) :=
  match arg.toList with
  | '-' :: '-' :: cs =>
    let name := String.ofList (cs.takeWhile (· != '='))
    match cs.dropWhile (· != '=') with
    | _ :: value => some (name, some (String.ofList value))
    | [] => some (name, none)
  | _ => none

/-- Reads arguments in any order. An option is given at most once; a value of its own does not look
like an option. After `--` there are no options. -/
def readArguments (known : List String) (read : Arguments) : List String → Option Arguments
  | [] => some read
  | arg :: args =>
    if arg = "--" then some { read with others := read.others ++ args }
    else if !isOption arg then
      readArguments known { read with others := read.others ++ [arg] } args
    else
      match splitOption? arg with
      | none => none
      | some (name, value) =>
        if !known.contains name || (read.options.lookup name).isSome then none
        else
          match value, args with
          | some value, args =>
            readArguments known { read with options := (name, value) :: read.options } args
          | none, value :: args =>
            if isOption value then none
            else readArguments known { read with options := (name, value) :: read.options } args
          | none, [] => none

/-- The format that was asked for, a table if none was. -/
def Arguments.format? (arguments : Arguments) : Option Format :=
  match arguments.options.lookup "format" with
  | some name => Format.ofName? name
  | none => some .table

def Command.ofArguments? : List String → Option Command
  | "validate" :: args => do
    let arguments ← readArguments ["name", "format"] ⟨[], []⟩ args
    let format ← arguments.format?
    match arguments.others with
    | [file] =>
      if file = "" then none
      else some (.validate file ((arguments.options.lookup "name").getD "job") format)
    | _ => none
  | "defaults" :: args => do
    let arguments ← readArguments ["format"] ⟨[], []⟩ args
    let format ← arguments.format?
    if arguments.others = [] then some (.defaults format) else none
  | _ => none

/-! ## Commands -/

/-- Reads a file, or says why it cannot. -/
abbrev FileReader := String → Except String ByteArray

def load (read : FileReader) (file : String) : Except Error Options :=
  match read file with
  | .error cause => .error (.reported ["Failed to read " ++ file, cause])
  | .ok bytes =>
    match String.fromUTF8? bytes with
    | none =>
      .error (.reported ["Failed to read " ++ file, "stream did not contain valid UTF-8"])
    | some text =>
      (OptionsFile.read text).mapError fun e => .reported (("Failed to parse " ++ file) :: e.chain)

/-- What a failure to build the environment is to the user. -/
def buildError (file : String) : Failure Rejection → Error
  | .refused cause => .reported ["Invalid checkpoint options in " ++ file, cause.message]
  | .overflow => .overflow

def validate (read : FileReader) (file name : String) : Traced Error Job := do
  let options ← .ofExcept (load read file)
  .log [.fileLoaded file options.size]
  let plan := (Plan.start name).note (.options options)
  let e ← plan.build.mapError (buildError file)
  .log (if e.config.isEnabled then [] else [.checkpointingDisabled])
  e.build

/-- Runs a command. Gives what is written to standard output. -/
def Command.run (read : FileReader) : Command → Traced Error String
  | .validate file name format => do
    let job ← CommandLine.validate read file name
    return Report.text job.name job.config format
  | .defaults format => return Report.text "defaults" .default format

def run (read : FileReader) (args : List String) : Traced Error String :=
  match Command.ofArguments? args with
  | some command => command.run read
  | none => .fail .usage

/-- What a run leaves to its caller: an exit code, and the text on standard output. -/
structure Exit where
  code : UInt32
  output : String
deriving DecidableEq, Repr

/-- A run that fails writes nothing to standard output. -/
def exit : Except Error String → Exit
  | .ok text => ⟨0, text⟩
  | .error e => ⟨e.exitCode, ""⟩

/-! ## Standard error -/

/-- A text with blanks before each line after the first. -/
def indentRest (blanks : String) (s : String) : String :=
  String.ofList (s.toList.flatMap fun c => if c = '\n' then '\n' :: blanks.toList else [c])

/-- The causes of a failure, a line for each. Several causes are counted. -/
def causeLines : List String → List String
  | [] => []
  | [cause] => ["    " ++ indentRest "    " cause]
  | causes => causes.zipIdx.map fun (cause, n) =>
      let number := toString n
      String.ofList (List.replicate (5 - number.length) ' ') ++ number ++ ": " ++
        indentRest "       " cause

def report : List String → String
  | [] => ""
  | [message] => "Error: " ++ message ++ "\n"
  | message :: causes =>
    "Error: " ++ message ++ "\n\nCaused by:\n" ++ "\n".intercalate (causeLines causes) ++ "\n"

/-- The part of the program that an event comes from. -/
def origin : Event → String
  | .fileLoaded _ _ | .checkpointingDisabled => "spoke::commands::validate"
  | .jobBuilt _ _ _ _ _ => "spoke_api::environment"
  | .optionIgnored _ | .optionApplied _ _ => "spoke_checkpoint::options"
  | .enabled _ | .pauseExceedsInterval _ _ | .modeSet _ | .pausePreventsOverlap _ _
  | .toleranceWithoutEffect _ | .retentionSet _ | .unalignedEnabled => "spoke_checkpoint::config"

/-- The lines of the log. Events for debugging are left out. -/
def logLines (events : List Event) : List String :=
  (events.filter (·.level != .debug)).map fun e =>
    e.level.name ++ " " ++ origin e ++ ": " ++ e.body

end Checkpointing.CommandLine
