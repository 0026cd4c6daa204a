/-! A computation on checkpoint settings can end in two ways without a value: its input is refused
for a cause that is reported, or a sum of durations passes the largest duration and the computation
is given up. -/

namespace Checkpointing
set_option autoImplicit false

inductive Failure (ε : Type) where
  | refused (cause : ε)
  | overflow
deriving DecidableEq, Repr

namespace Failure
variable {ε δ : Type}

def map (f : ε → δ) : Failure ε → Failure δ
  | .refused cause => .refused (f cause)
  | .overflow => .overflow

@[simp] theorem map_refused (f : ε → δ) (cause : ε) : map f (.refused cause) = .refused (f cause) := rfl
@[simp] theorem map_overflow (f : ε → δ) : map f .overflow = .overflow := rfl

end Failure
end Checkpointing
