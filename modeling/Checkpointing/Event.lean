import Checkpointing.Mode
import Checkpointing.Retention

/-! Events are what a computation on checkpoint settings writes to the log. -/

namespace Checkpointing
set_option autoImplicit false

inductive Level where
  | debug | info | warn
deriving DecidableEq, Repr

def Level.name : Level → String
  | .debug => "DEBUG"
  | .info => "INFO"
  | .warn => "WARN"

inductive Event where
  | enabled (interval : Int64)
  | pauseExceedsInterval (pause : UInt64) (interval : Int64)
  | modeSet (mode : Mode)
  | pausePreventsOverlap (maxConcurrent : UInt32) (pause : UInt64)
  | toleranceWithoutEffect (number : UInt32)
  | retentionSet (retention : Retention)
  | unalignedEnabled
  | optionIgnored (key : String)
  | optionApplied (key value : String)
  | jobBuilt (name : String) (on : Bool) (interval : Int64) (mode : Mode) (unaligned : Bool)
  | fileLoaded (path : String) (count : Nat)
  | checkpointingDisabled
deriving DecidableEq, Repr

namespace Event

def level : Event → Level
  | .enabled _ | .modeSet _ | .pausePreventsOverlap _ _ | .toleranceWithoutEffect _
  | .retentionSet _ | .unalignedEnabled | .optionApplied _ _ => .debug
  | .jobBuilt _ _ _ _ _ | .fileLoaded _ _ => .info
  | .pauseExceedsInterval _ _ | .optionIgnored _ | .checkpointingDisabled => .warn

def message : Event → String
  | .enabled _ => "Checkpointing enabled"
  | .pauseExceedsInterval _ _ => "Min pause between checkpoints exceeds the checkpoint interval"
  | .modeSet _ => "Checkpointing mode set"
  | .pausePreventsOverlap _ _ => "Min pause prevents checkpoints from overlapping"
  | .toleranceWithoutEffect _ =>
    "Tolerable failure number has no effect while fail-on-checkpointing-errors is set"
  | .retentionSet _ => "Externalized checkpoint retention set"
  | .unalignedEnabled => "Unaligned checkpoints enabled"
  | .optionIgnored _ => "Ignoring unknown checkpoint option"
  | .optionApplied _ _ => "Applied checkpoint option"
  | .jobBuilt _ _ _ _ _ => "Built job definition"
  | .fileLoaded _ _ => "Loaded checkpoint options"
  | .checkpointingDisabled =>
    "Checkpointing is disabled; set execution.checkpointing.interval to enable it"

/-- What an event reports, by name. -/
def fields : Event → List (String × String)
  | .enabled interval => [("interval_ms", toString interval)]
  | .pauseExceedsInterval pause interval =>
    [("min_pause_ms", toString pause), ("interval_ms", toString interval)]
  | .modeSet mode => [("mode", mode.name)]
  | .pausePreventsOverlap maxConcurrent pause =>
    [("max_concurrent", toString maxConcurrent), ("min_pause_ms", toString pause)]
  | .toleranceWithoutEffect number => [("number", toString number)]
  | .retentionSet retention => [("retention", retention.name)]
  | .unalignedEnabled | .checkpointingDisabled => []
  | .optionIgnored key => [("option", key)]
  | .optionApplied key value => [("option", key), ("value", value)]
  | .jobBuilt name on interval mode unaligned =>
    [("job", name), ("checkpointing", toString on), ("interval_ms", toString interval),
     ("mode", mode.name), ("unaligned", toString unaligned)]
  | .fileLoaded path count => [("file", path), ("options", toString count)]

/-- The message followed by the fields. -/
def body (e : Event) : String :=
  e.fields.foldl (fun line (name, value) => line ++ " " ++ name ++ "=" ++ value) e.message

def line (e : Event) : String := e.level.name ++ " " ++ e.body

end Event
end Checkpointing
