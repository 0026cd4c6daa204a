import Checkpointing.Duration.Basic
import Checkpointing.Mode
import Checkpointing.Retention

/-! The checkpoint settings of one job, their defaults, and the conditions under which they fit
together. -/

namespace Checkpointing
set_option autoImplicit false

structure Config where
  /-- milliseconds between checkpoints, or -1 when there are none -/
  interval : Int64
  mode : Mode
  /-- milliseconds a checkpoint may take before it is given up -/
  timeout : UInt64
  /-- least milliseconds from the end of a checkpoint to the start of the next -/
  minPause : UInt64
  /-- how many checkpoints may be in flight at once -/
  maxConcurrent : UInt32
  failOnErrors : Bool
  /-- how many failures in a row are tolerated, unless the job fails on errors -/
  tolerableFailures : UInt32
  retention : Retention
  /-- whether barriers may overtake records -/
  unaligned : Bool
  /-- unaligned also where the engine would align -/
  forceUnaligned : Bool
  /-- how long to wait for aligned barriers before switching to unaligned ones -/
  alignmentTimeout : Duration
  approximateRecovery : Bool
  /-- the checkpoint whose in-flight data is skipped on recovery, or -1 -/
  ignoredCheckpoint : Int64
deriving DecidableEq, Repr

namespace Config

/-- The interval that means there are no checkpoints. -/
def disabledInterval : Int64 := -1

/-- The checkpoint id that means in-flight data is restored. -/
def noIgnoredCheckpoint : Int64 := -1

/-- Checkpointing is off, and a checkpoint would have ten minutes. -/
def default : Config where
  interval := disabledInterval
  mode := .exactlyOnce
  timeout := 600000
  minPause := 0
  maxConcurrent := 1
  failOnErrors := true
  tolerableFailures := 0
  retention := .noExternalized
  unaligned := false
  forceUnaligned := false
  alignmentTimeout := .zero
  approximateRecovery := false
  ignoredCheckpoint := noIgnoredCheckpoint

def isEnabled (c : Config) : Bool := 0 < c.interval

/-- The failures in a row that the engine tolerates: none if the job fails on errors. -/
def effectiveTolerableFailures (c : Config) : UInt32 :=
  if c.failOnErrors then 0 else c.tolerableFailures

/-- Whether checkpoints are on and the pause is longer than the interval, so that the pause decides
how often they happen. -/
def pauseExceedsInterval (c : Config) : Bool :=
  c.isEnabled && c.interval.toInt < c.minPause.toNat

/-- Settings that fit together. -/
structure Coherent (c : Config) : Prop where
  interval : c.interval = disabledInterval ∨ 0 < c.interval
  timeout : 0 < c.timeout
  maxConcurrent : 1 ≤ c.maxConcurrent
  exactlyOnce : c.unaligned = true → c.mode = .exactlyOnce
  noRecovery : ¬(c.unaligned = true ∧ c.approximateRecovery = true)
  ignoredCheckpoint : noIgnoredCheckpoint ≤ c.ignoredCheckpoint

theorem coherent_iff (c : Config) : c.Coherent ↔
    (c.interval = disabledInterval ∨ 0 < c.interval) ∧ 0 < c.timeout ∧ 1 ≤ c.maxConcurrent ∧
      (c.unaligned = true → c.mode = .exactlyOnce) ∧
      ¬(c.unaligned = true ∧ c.approximateRecovery = true) ∧
      noIgnoredCheckpoint ≤ c.ignoredCheckpoint :=
  ⟨fun h => ⟨h.1, h.2, h.3, h.4, h.5, h.6⟩, fun ⟨h₁, h₂, h₃, h₄, h₅, h₆⟩ => ⟨h₁, h₂, h₃, h₄, h₅, h₆⟩⟩

instance (c : Config) : Decidable c.Coherent := decidable_of_iff' _ c.coherent_iff

theorem coherent_default : default.Coherent := by decide

end Config
end Checkpointing
