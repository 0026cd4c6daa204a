import Checkpointing.Naming

/-! The processing guarantee that checkpoints give. -/

namespace Checkpointing
set_option autoImplicit false

inductive Mode where
  /-- Barriers are aligned on all inputs; each record affects the state once. -/
  | exactlyOnce
  /-- Barriers are not aligned; records may be replayed after recovery. -/
  | atLeastOnce
deriving DecidableEq, Repr

namespace Mode

def name : Mode → String
  | .exactlyOnce => "EXACTLY_ONCE"
  | .atLeastOnce => "AT_LEAST_ONCE"

def naming : Naming Mode where
  all := [.exactlyOnce, .atLeastOnce]
  name := name
  mem_all m := by cases m <;> decide
  name_injective m n := by cases m <;> cases n <;> simp [name]
  isCanonical_name m := by cases m <;> decide

end Mode
end Checkpointing
