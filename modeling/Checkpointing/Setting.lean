/-! The thirteen checkpoint settings, their names as options, and the order in which a batch of
options is applied. -/

namespace Checkpointing
set_option autoImplicit false

inductive Setting where
  | interval
  | mode
  | timeout
  | minPause
  | maxConcurrent
  | failOnErrors
  | tolerableFailures
  | retention
  | approximateRecovery
  | unaligned
  | forceUnaligned
  | alignmentTimeout
  | ignoredCheckpoint
deriving DecidableEq, Repr

namespace Setting

/-- All settings in the order of application: the mode and approximate local recovery come before
unaligned checkpoints, which depend on both. -/
def all : List Setting :=
  [.interval, .mode, .timeout, .minPause, .maxConcurrent, .failOnErrors, .tolerableFailures,
   .retention, .approximateRecovery, .unaligned, .forceUnaligned, .alignmentTimeout,
   .ignoredCheckpoint]

def name : Setting → String
  | .interval => "interval"
  | .mode => "mode"
  | .timeout => "timeout"
  | .minPause => "min-pause"
  | .maxConcurrent => "max-concurrent-checkpoints"
  | .failOnErrors => "fail-on-checkpointing-errors"
  | .tolerableFailures => "tolerable-failed-checkpoints"
  | .retention => "externalized-checkpoint-retention"
  | .approximateRecovery => "approximate-local-recovery"
  | .unaligned => "unaligned"
  | .forceUnaligned => "unaligned.forced"
  | .alignmentTimeout => "aligned-checkpoint-timeout"
  | .ignoredCheckpoint => "recover-without-channel-state.checkpoint-id"

/-- Keys of checkpoint options start with this. -/
def keyStart : String := "execution.checkpointing."

def key (s : Setting) : String := keyStart ++ s.name

def ofKey? (key : String) : Option Setting := all.find? (·.key = key)

/-- Whether a key claims to be a checkpoint option. -/
def isCheckpointKey (key : String) : Bool := keyStart.toList.isPrefixOf key.toList

theorem mem_all (s : Setting) : s ∈ all := by cases s <;> decide

theorem nodup_all : all.Nodup := by decide

@[simp] theorem ofKey?_key (s : Setting) : ofKey? s.key = some s := by cases s <;> decide

theorem key_injective {s t : Setting} (h : s.key = t.key) : s = t := by
  have := congrArg ofKey? h
  simpa using this

end Setting
end Checkpointing
