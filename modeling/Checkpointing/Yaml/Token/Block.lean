import Checkpointing.Yaml.Error
import Checkpointing.Yaml.Placed

/-! Block scalars: the lines below a mark that are indented alike. A literal block keeps its breaks, a
folded one joins lines that start without a blank. -/

namespace Checkpointing.Yaml.Block
set_option autoImplicit false

/-- What becomes of the breaks at the end. -/
inductive Chomping where
  | strip
  | clip
  | keep
deriving DecidableEq, Repr

structure Header where
  chomping : Chomping
  /-- how much further the block is indented, if it is said -/
  increment : Option Nat

def chomping? : Option Char → Option Chomping
  | some '+' => some .keep
  | some '-' => some .strip
  | _ => none

def digit? (c : Option Char) : Option Nat :=
  c.bind fun c => if c.isDigit then some (c.toNat - '0'.toNat) else none

/-- The signs, which come in either order, and how many they are. -/
def signs (ps : List Placed) : Header × Nat :=
  match chomping? (ahead ps 0), digit? (ahead ps 0) with
  | some c, _ =>
    match digit? (ahead ps 1) with
    | some n => (⟨c, some n⟩, 2)
    | none => (⟨c, none⟩, 1)
  | none, some n =>
    match chomping? (ahead ps 1) with
    | some c => (⟨c, some n⟩, 2)
    | none => (⟨.clip, some n⟩, 1)
  | none, none => (⟨.clip, none⟩, 0)

/-- Reads the signs and passes over the rest of the line. -/
def readHeader (ps : List Placed) : Except Error (Header × List Placed) :=
  let (header, count) := signs ps
  let rest := dropComment (ps.drop count)
  if header.increment ≠ some 0 ∧ endsLine (ahead rest 0) then .ok (header, rest.drop 1)
  else .error (.malformed "block scalar")

/-- Passes over indentation and empty lines. Gives the breaks passed, the last one first, the furthest
column reached and the rest. Without `indent` all blanks are indentation. -/
def readBreaks (indent : Option Int) (breaks : List Char) (furthest : Nat) :
    List Placed → Except Error (List Char × Nat × List Placed)
  | [] => .ok (breaks, furthest, [])
  | p :: ps =>
    let within := indent.all fun (n : Int) => decide ((p.column : Int) < n)
    if within && p.char == ' ' then readBreaks indent breaks furthest ps
    else if within && p.char == '\t' then .error (.misplaced "tab")
    else if isBreak p.char then readBreaks indent (p.char :: breaks) (max furthest p.column) ps
    else .ok (breaks, max furthest p.column, p :: ps)

structure State where
  /-- the characters so far, the last one first -/
  read : List Char
  /-- the break that ended the last line -/
  leading : List Char
  /-- the breaks of empty lines after it, the last one first -/
  trailing : List Char
  /-- whether the last line started with a blank -/
  startedBlank : Bool

/-- The breaks before a line that follows. -/
def State.joint (s : State) (folded startsBlank : Bool) : List Char :=
  if folded && s.leading == ['\n'] && !s.startedBlank && !startsBlank then
    if s.trailing = [] then [' '] else s.trailing
  else
    s.trailing ++ s.leading

/-- Reads the lines that are indented by `indent`. Each takes a character at least. -/
def readLines (folded : Bool) (indent : Int) :
    (steps : Nat) → State → List Placed → Except Error (State × List Placed)
  | 0, s, ps => .ok (s, ps)
  | _ + 1, s, [] => .ok (s, [])
  | steps + 1, s, p :: ps =>
    if p.column ≠ indent then .ok (s, p :: ps)
    else do
      let startsBlank := isGap p.char
      let line := (p :: ps).takeWhile fun p => !isBreak p.char
      let after := (p :: ps).dropWhile fun p => !isBreak p.char
      let leading := (after.take 1).map Placed.char
      let (trailing, _, rest) ← readBreaks (some indent) [] 0 (after.drop 1)
      let read := (line.map Placed.char).reverse ++ s.joint folded startsBlank ++ s.read
      readLines folded indent steps ⟨read, leading, trailing, startsBlank⟩ rest

/-- Reads a scalar after its mark. `parent` is the indentation of the block around it, or -1. -/
def read (folded : Bool) (parent : Int) (ps : List Placed) :
    Except Error (List Char × List Placed) := do
  let (header, ps) ← readHeader ps
  let said := header.increment.map fun n => max parent 0 + Int.ofNat n
  let (breaks, furthest, ps) ← readBreaks said [] 0 ps
  let indent := said.getD (max (max furthest (parent + 1)) 1)
  let (s, ps) ← readLines folded indent (ps.length + 1) ⟨[], [], breaks, false⟩ ps
  let tail := match header.chomping with
    | .strip => []
    | .clip => s.leading
    | .keep => s.trailing ++ s.leading
  return ((tail ++ s.read).reverse, ps)

end Checkpointing.Yaml.Block
