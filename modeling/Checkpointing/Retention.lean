import Checkpointing.Naming

/-! What happens to the last checkpoint when a job stops. -/

namespace Checkpointing
set_option autoImplicit false

inductive Retention where
  /-- Checkpoints are removed with the job. -/
  | noExternalized
  /-- The last checkpoint is kept when the job is cancelled. -/
  | retainOnCancellation
  /-- The last checkpoint is deleted when the job is cancelled, and kept when it fails. -/
  | deleteOnCancellation
deriving DecidableEq, Repr

namespace Retention

def name : Retention → String
  | .noExternalized => "NO_EXTERNALIZED_CHECKPOINTS"
  | .retainOnCancellation => "RETAIN_ON_CANCELLATION"
  | .deleteOnCancellation => "DELETE_ON_CANCELLATION"

def naming : Naming Retention where
  all := [.noExternalized, .retainOnCancellation, .deleteOnCancellation]
  name := name
  mem_all r := by cases r <;> decide
  name_injective r s := by cases r <;> cases s <;> simp [name]
  isCanonical_name r := by cases r <;> decide

/-- Whether completed checkpoints outlive the job. -/
def isExternalized (r : Retention) : Bool := r != .noExternalized

end Retention
end Checkpointing
