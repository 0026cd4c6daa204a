import Checkpointing.Config.Basic

/-! What the engine attaches to the barrier of a single checkpoint. -/

namespace Checkpointing
set_option autoImplicit false

structure Barrier where
  /-- savepoints are asked for by a user -/
  isSavepoint : Bool
  /-- whether in-flight data may be part of the snapshot -/
  isUnaligned : Bool
  /-- how many milliseconds to wait for aligned barriers first -/
  alignmentTimeoutMs : Option UInt64
deriving DecidableEq, Repr

/-- A regular aligned checkpoint. -/
def Barrier.aligned : Barrier := ⟨false, false, none⟩

/-- Whole milliseconds of a duration, as many as 64 bits can hold. -/
def Duration.cappedMillis (d : Duration) : UInt64 := UInt64.ofNat (min d.millis 0xFFFFFFFFFFFFFFFF)

/-- The barrier of the next checkpoint. Savepoints are always aligned. -/
def Config.barrier (c : Config) (savepoint : Bool) : Barrier :=
  let unaligned := c.unaligned && !savepoint
  ⟨savepoint, unaligned, if unaligned then some c.alignmentTimeout.cappedMillis else none⟩

@[simp] theorem Config.barrier_savepoint (c : Config) : c.barrier true = ⟨true, false, none⟩ := by
  simp [Config.barrier]

theorem Config.barrier_of_aligned {c : Config} (h : c.unaligned = false) :
    c.barrier false = .aligned := by
  simp [Config.barrier, Barrier.aligned, h]

end Checkpointing
