import Checkpointing.Json.Record
import Checkpointing.Proofs.Json.Scalar

/-!
# What is passed over

Passing over a value is a loop with a stack of open brackets and a count of steps. Here it is taken
apart: a value is a leaf, or a bracket with parts inside it, and it is passed over as its parts are,
whatever brackets are open around it and however many steps are left.
-/

namespace Checkpointing.Json
set_option autoImplicit false

/-- In `k` steps the value at the front of a text is passed over, and `rest` is left. -/
def Skips (k : Nat) (cs rest : List Char) : Prop :=
  ∀ n open_, skipFrom (k + n) .value open_ cs = skipFrom n .rest open_ rest

def Next.inside (first : Bool) : Next := if first then .first else .rest

/-- In `k` steps what is left inside a bracket is passed over, with the end of the bracket. -/
def Inside (k : Nat) (frame : Frame) (first : Bool) (cs rest : List Char) : Prop :=
  ∀ n open_, skipFrom (k + n) (.inside first) (frame :: open_) cs = skipFrom n .rest open_ rest

def Leads (frame : Frame) (first : Bool) (cs cs' : List Char) : Prop :=
  ∃ c tail, skipSpace cs = c :: tail ∧ c ≠ frame.closing ∧
    if first then skipMemberName frame (c :: tail) = .ok cs'
    else c = ',' ∧ skipMemberName frame tail = .ok cs'

variable {k l : Nat} {cs cs' cs'' rest rest' : List Char} {frame : Frame} {first : Bool}

theorem skipSpace_skipSpace (cs : List Char) : skipSpace (skipSpace cs) = skipSpace cs :=
  List.dropWhile_idempotent _ _

theorem skipFrom_value (n : Nat) (open_ : List Frame) (cs : List Char) :
    skipFrom (n + 1) .value open_ cs =
      match skipSpace cs with
      | '[' :: cs => skipFrom n .first (.sequence :: open_) cs
      | '\x7b' :: cs => skipFrom n .first (.map :: open_) cs
      | cs => skipLeaf cs >>= skipFrom n .rest open_ := rfl

theorem skipFrom_inside (n : Nat) (open_ : List Frame) (first : Bool) {c : Char} {tail : List Char}
    (hcs : skipSpace cs = c :: tail) :
    skipFrom (n + 1) (.inside first) (frame :: open_) cs =
      if c = frame.closing then skipFrom n .rest open_ tail
      else if first then skipMemberName frame (c :: tail) >>= skipFrom n .value (frame :: open_)
      else if c = ',' then skipMemberName frame tail >>= skipFrom n .value (frame :: open_)
      else .error .malformed := by
  cases first with
  | true => simp [Next.inside, skipFrom, hcs]
  | false => simp [Next.inside, skipFrom, hcs]

theorem skipFrom_skipSpace (n : Nat) (open_ : List Frame) (cs : List Char) :
    skipFrom n .value open_ (skipSpace cs) = skipFrom n .value open_ cs := by
  cases n with
  | zero => rfl
  | succ n => rw [skipFrom_value, skipFrom_value, skipSpace_skipSpace]

theorem skips_skipSpace_iff : Skips k (skipSpace cs) rest ↔ Skips k cs rest := by
  simp only [Skips, skipFrom_skipSpace]

/-- A leaf does not start with a bracket. -/
theorem skips_leaf (h : skipLeaf (skipSpace cs) = .ok rest) : Skips 1 cs rest := by
  intro n open_
  rw [Nat.add_comm, skipFrom_value]
  split
  · rename_i heq
    rw [heq] at h
    exact absurd h (by simp [skipLeaf, isDigit, Numeral.digit?])
  · rename_i heq
    rw [heq] at h
    exact absurd h (by simp [skipLeaf, isDigit, Numeral.digit?])
  · rw [h]
    rfl

def Frame.opening : Frame → Char
  | .sequence => '['
  | .map => '\x7b'

theorem skips_bracket (frame : Frame) (h : skipSpace cs = frame.opening :: cs')
    (hinside : Inside k frame true cs' rest) : Skips (k + 1) cs rest := by
  intro n open_
  rw [Nat.add_right_comm, skipFrom_value, h]
  cases frame <;> exact hinside n open_

theorem inside_close (frame : Frame) (h : skipSpace cs = frame.closing :: rest) :
    Inside 1 frame first cs rest := by
  intro n open_
  rw [Nat.add_comm, skipFrom_inside n open_ first h, if_pos rfl]

theorem skipFrom_leads (h : Leads frame first cs cs') (n : Nat) (open_ : List Frame) :
    skipFrom (n + 1) (.inside first) (frame :: open_) cs =
      skipFrom n .value (frame :: open_) cs' := by
  obtain ⟨c, tail, hcs, hc, hname⟩ := h
  rw [skipFrom_inside n open_ first hcs, if_neg hc]
  cases first with
  | true =>
    rw [if_pos rfl] at hname
    rw [if_pos rfl, hname]
    rfl
  | false =>
    obtain ⟨rfl, hname⟩ := hname
    rw [if_neg Bool.false_ne_true, if_pos rfl, hname]
    rfl

theorem inside_part (hlead : Leads frame first cs cs') (hvalue : Skips k cs' cs'')
    (hinside : Inside l frame false cs'' rest) : Inside (k + l + 1) frame first cs rest := by
  intro n open_
  have hsteps : k + l + 1 + n = k + (l + n) + 1 := by omega
  calc skipFrom (k + l + 1 + n) (.inside first) (frame :: open_) cs
    _ = skipFrom (k + (l + n)) .value (frame :: open_) cs' := by rw [hsteps, skipFrom_leads hlead]
    _ = skipFrom (l + n) .rest (frame :: open_) cs'' := hvalue (l + n) (frame :: open_)
    _ = skipFrom n .rest open_ rest := hinside n open_

theorem skipFrom_rest_nil (n : Nat) (cs : List Char) : skipFrom (n + 1) .rest [] cs = .ok cs := rfl

theorem Skips.unique (h : Skips k cs rest) (h' : Skips l cs rest') : rest = rest' := by
  have hleft := h (l + 1) []
  have hright := h' (k + 1) []
  have hsteps : k + (l + 1) = l + (k + 1) := by omega
  rw [hsteps, hright, skipFrom_rest_nil, skipFrom_rest_nil] at hleft
  exact (Except.ok.inj hleft).symm

theorem Skips.skipValue (h : Skips k cs rest) (hk : k ≤ 2 * cs.length + 1) :
    skipValue cs = .ok rest := by
  have hsteps : 2 * cs.length + 2 = k + (2 * cs.length + 1 - k + 1) := by omega
  rw [Json.skipValue, hsteps, h, skipFrom_rest_nil]

end Checkpointing.Json
