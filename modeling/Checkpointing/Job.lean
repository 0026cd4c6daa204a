import Checkpointing.Barrier

/-! A job that is ready for submission: its name, and settings that no longer change. -/

namespace Checkpointing
set_option autoImplicit false

structure Job where
  name : String
  config : Config
deriving DecidableEq, Repr

namespace Job

/-- The barrier of the next periodic checkpoint, if there are any. -/
def nextBarrier? (job : Job) : Option Barrier :=
  if job.config.isEnabled then some (job.config.barrier false) else none

def savepointBarrier (job : Job) : Barrier := job.config.barrier true

end Job
end Checkpointing
