import Checkpointing.CommandLine

/-! The program: reads the file, and writes what the command line gives. -/

namespace Checkpointing.Program
set_option autoImplicit false

/-- The operating system's words for a failure. -/
def systemText : IO.Error → String
  | .noFileOrDirectory _ code details | .permissionDenied _ code details
  | .inappropriateType _ code details | .invalidArgument _ code details =>
    s!"{details} (os error {code})"
  | e => toString e

/-- What reading a file gives. -/
def tryRead (file : String) : IO (Except String ByteArray) := do
  try
    return .ok (← IO.FS.readBinFile file)
  catch e =>
    return .error (systemText e)

/-- The contents of the file that a command names. -/
def readNamed (args : List String) : IO CommandLine.FileReader := do
  match CommandLine.Command.ofArguments? args with
  | some (.validate file _ _) =>
    let contents ← tryRead file
    return fun _ => contents
  | _ => return fun _ => .error ""

/-- Writes why a run failed to standard error. -/
def complain : CommandLine.Error → IO Unit
  | .usage => do
    IO.eprintln "Usage: spoke validate FILE [--name NAME] [--format table|json]"
    IO.eprintln "       spoke defaults [--format table|json]"
  | .reported chain => IO.eprint (CommandLine.report chain)
  | .overflow => IO.eprintln "overflow in Duration::new"

/-- Runs the program and gives its exit code. -/
def start (args : List String) : IO UInt32 := do
  let run := CommandLine.run (← readNamed args) args
  for line in CommandLine.logLines run.events do
    IO.eprintln line
  if let .error e := run.outcome then complain e
  let exit := CommandLine.exit run.outcome
  IO.print exit.output
  return exit.code

end Checkpointing.Program

def main (args : List String) : IO UInt32 := Checkpointing.Program.start args
