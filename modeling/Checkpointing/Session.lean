import Checkpointing.Environment
import Checkpointing.Job.Json

/-!
# Sessions

A session holds an environment and copies of it that were saved. Each step changes the environment or
asks about it. A step that is refused leaves the session as it was.
-/

namespace Checkpointing
set_option autoImplicit false

structure Session where
  environment : Environment
  saved : List Environment
deriving DecidableEq, Repr

namespace Session

inductive Step where
  | change (change : Change)
  /-- sets the mode that a label denotes -/
  | mode (label : String)
  /-- sets the retention that a label denotes -/
  | retention (label : String)
  | configure (options : Options)
  | enable (interval : Int64)
  | enableWithMode (interval : Int64) (label : String)
  | loadJson (text : String)
  | fresh (name : String)
  | save
  | restore (index : Nat)
  | barrier (savepoint : Bool)
  | options
  | optionsRoundTrip
  | json
  | job
  | equals (index : Nat)

inductive Answer where
  | done
  | barrier (barrier : Barrier)
  | options (options : Options)
  | flag (value : Bool)
  | text (text : String)
  | job (job : Job)
  | index (index : Nat)

inductive Error where
  | setting (failure : Failure Rejection)
  | json (error : Json.Error)
  /-- no copy was saved under that number -/
  | noCopy (index : Nat)
deriving DecidableEq, Repr

def start (name : String) : Session := ⟨.fresh name, []⟩

def config (s : Session) : Config := s.environment.config

/-- The session with other settings in its environment. -/
def withConfig (s : Session) (c : Config) : Session :=
  { s with environment := { s.environment with config := c } }

def rejecting {α : Type} (x : Traced Rejection α) : Traced Error α :=
  x.mapError fun cause => .setting (.refused cause)

def failing {α : Type} (x : Traced (Failure Rejection) α) : Traced Error α := x.mapError .setting

/-- Runs a computation that gives new settings. -/
def onConfig (s : Session) (x : Traced Error Config) : Traced Error (Session × Answer) := do
  return (s.withConfig (← x), .done)

/-- Whether settings come back from the options they are written as. -/
def optionsRoundTrip (c : Config) : Traced Error Bool :=
  let back := Config.ofOptions c.toOptions
  ⟨back.events, .ok (decide (back.value? = some c))⟩

def copy (s : Session) (index : Nat) : Traced Error Environment :=
  match s.saved[index]? with
  | some environment => pure environment
  | none => .fail (.noCopy index)

def take (s : Session) : Step → Traced Error (Session × Answer)
  | .change change => s.onConfig (rejecting (s.config.update change))
  | .mode label => s.onConfig (rejecting do
      s.config.update (.mode (← .ofExcept (Options.readMode label))))
  | .retention label => s.onConfig (rejecting do
      s.config.update (.retention (← .ofExcept (Options.readRetention label))))
  | .configure options => s.onConfig (failing (s.config.configure options))
  | .enable interval => do
    let e ← rejecting (s.environment.enable interval)
    return ({ s with environment := e }, .done)
  | .enableWithMode interval label => do
    let m ← rejecting (.ofExcept (Options.readMode label))
    let e ← rejecting (s.environment.enableWithMode interval m)
    return ({ s with environment := e }, .done)
  | .loadJson text => s.onConfig ((Config.ofJson text).mapError .json)
  | .fresh name => pure ({ s with environment := .fresh name }, .done)
  | .save => pure ({ s with saved := s.saved ++ [s.environment] }, .index s.saved.length)
  | .restore index => do return ({ s with environment := ← s.copy index }, .done)
  | .barrier savepoint => pure (s, .barrier (s.config.barrier savepoint))
  | .options => pure (s, .options s.config.toOptions)
  | .optionsRoundTrip => do return (s, .flag (← optionsRoundTrip s.config))
  | .json => pure (s, .text s.config.toJson.compact)
  | .job => do return (s, .job (← s.environment.build))
  | .equals index => do return (s, .flag (decide ((← s.copy index).config = s.config)))

/-- The session after a step, which is the same if the step was refused. -/
def next (s : Session) (step : Step) : Session :=
  match (s.take step).outcome with
  | .ok (s, _) => s
  | .error _ => s

end Session
end Checkpointing
