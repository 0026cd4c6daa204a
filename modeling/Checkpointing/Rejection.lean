import Checkpointing.Duration.Span
import Checkpointing.Mode
import Checkpointing.Setting

/-! Why a checkpoint setting is refused. Each cause blames one setting. -/

namespace Checkpointing
set_option autoImplicit false

inductive Rejection where
  | intervalNotPositive (ms : Int64)
  | intervalTooLarge
  /-- the mode cannot change while unaligned checkpoints are on -/
  | modeWhileUnaligned (mode : Mode)
  | unknownMode (text : String)
  | timeoutNotPositive
  | noConcurrentCheckpoint (n : UInt32)
  | unknownRetention (text : String)
  | unalignedInMode (mode : Mode)
  | unalignedWithRecovery
  | recoveryWithUnaligned
  | ignoredCheckpointTooSmall (id : Int64)
  | notWholeMillis (setting : Setting) (text : String)
  | durationTooLarge (setting : Setting)
  | invalidDuration (setting : Setting) (text : String) (cause : Span.Error)
  | invalidNumber (setting : Setting) (text : String) (cause : Numeral.Error)
  | invalidFlag (setting : Setting) (text : String)
deriving DecidableEq, Repr

namespace Rejection

/-- The setting to blame. -/
def setting : Rejection → Setting
  | .intervalNotPositive _ | .intervalTooLarge => .interval
  | .modeWhileUnaligned _ | .unknownMode _ => .mode
  | .timeoutNotPositive => .timeout
  | .noConcurrentCheckpoint _ => .maxConcurrent
  | .unknownRetention _ => .retention
  | .unalignedInMode _ | .unalignedWithRecovery => .unaligned
  | .recoveryWithUnaligned => .approximateRecovery
  | .ignoredCheckpointTooSmall _ => .ignoredCheckpoint
  | .notWholeMillis s _ | .durationTooLarge s | .invalidDuration s _ _ | .invalidNumber s _ _
  | .invalidFlag s _ => s

def option (r : Rejection) : String := r.setting.name

def reason : Rejection → String
  | .intervalNotPositive ms => s!"checkpoint interval must be positive, got {ms} ms"
  | .intervalTooLarge => "interval is too large"
  | .modeWhileUnaligned mode =>
    s!"unaligned checkpoints are enabled and require EXACTLY_ONCE, got {mode.name}"
  | .unknownMode text =>
    s!"unknown checkpointing mode `{text}`, expected EXACTLY_ONCE or AT_LEAST_ONCE"
  | .timeoutNotPositive => "checkpoint timeout must be positive"
  | .noConcurrentCheckpoint n => s!"at least one concurrent checkpoint is required, got {n}"
  | .unknownRetention text => s!"unknown retention `{text}`"
  | .unalignedInMode mode =>
    s!"unaligned checkpoints require EXACTLY_ONCE mode, current mode is {mode.name}"
  | .unalignedWithRecovery =>
    "unaligned checkpoints cannot be combined with approximate local recovery"
  | .recoveryWithUnaligned =>
    "approximate local recovery cannot be combined with unaligned checkpoints"
  | .ignoredCheckpointTooSmall id => s!"checkpoint id must be -1 or non-negative, got {id}"
  | .notWholeMillis _ text => s!"`{text}` is not a whole number of milliseconds"
  | .durationTooLarge _ => "duration is too large"
  | .invalidDuration _ text cause => s!"invalid duration `{text}`: {cause.message}"
  | .invalidNumber _ text cause => s!"invalid number `{text}`: {cause.message}"
  | .invalidFlag _ text => s!"expected true or false, got `{text}`"

def message (r : Rejection) : String :=
  s!"invalid checkpoint configuration for `{r.option}`: {r.reason}"

end Rejection
end Checkpointing
