import Checkpointing.Job
import Checkpointing.Options.Configure

/-! An environment holds a job's name and settings while the job is being defined. A plan collects
calls first and makes an environment of them at the end. -/

namespace Checkpointing
set_option autoImplicit false

structure Environment where
  name : String
  config : Config
deriving DecidableEq, Repr

namespace Environment

/-- An environment of that name with default settings. -/
def fresh (name : String) : Environment := ⟨name, .default⟩

def onConfig {ε : Type} (e : Environment) (f : Config → Traced ε Config) : Traced ε Environment := do
  return { e with config := ← f e.config }

def update (e : Environment) (change : Change) : Traced Rejection Environment :=
  e.onConfig (·.update change)

def enable (e : Environment) (interval : Int64) : Traced Rejection Environment :=
  e.update (.interval interval)

/-- Sets the mode and then the interval, both or neither. -/
def enableWithMode (e : Environment) (interval : Int64) (mode : Mode) :
    Traced Rejection Environment :=
  e.onConfig fun c => do (← c.update (.mode mode)).update (.interval interval)

def configure (e : Environment) (options : Options) : Traced (Failure Rejection) Environment :=
  e.onConfig (·.configure options)

/-- Freezes the definition of the job. -/
def build {ε : Type} (e : Environment) : Traced ε Job := do
  let c := e.config
  .log [.jobBuilt e.name c.isEnabled c.interval c.mode c.unaligned]
  pure ⟨e.name, c⟩

end Environment

/-- Calls on an environment that does not exist yet. -/
structure Plan where
  name : String
  interval : Option Int64
  mode : Option Mode
  options : Options

namespace Plan

def start (name : String) : Plan := ⟨name, none, none, ∅⟩

inductive Call where
  | interval (ms : Int64)
  | mode (mode : Mode)
  | option (key value : String)
  | options (options : Options)

/-- Notes a call. What it says replaces what was said before. -/
def note (p : Plan) : Call → Plan
  | .interval ms => { p with interval := some ms }
  | .mode mode => { p with mode := some mode }
  | .option key value => { p with options := p.options.insert key value }
  | .options options => { p with options := p.options.merge options }

def makeNamed {α : Type} (make : α → Change) (named : Option α) (e : Environment) :
    Traced (Failure Rejection) Environment :=
  match named with
  | some a => (e.update (make a)).mapError .refused
  | none => pure e

/-- The environment planned: options come first, then the mode and the interval that were named. -/
def build (p : Plan) : Traced (Failure Rejection) Environment := do
  let e ← (Environment.fresh p.name).configure p.options
  let e ← makeNamed .mode p.mode e
  makeNamed .interval p.interval e

end Plan
end Checkpointing
