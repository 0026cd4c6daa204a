import Checkpointing.Yaml.Error
import Checkpointing.Yaml.Placed

/-! Plain scalars: words with gaps between them. A gap within a line is kept, one over several lines is
folded. -/

namespace Checkpointing.Yaml
set_option autoImplicit false

/-- What a gap of blanks and breaks stands for. A single line feed is a blank, and of several the first
is left out; blanks about breaks are left out. -/
def foldGap (gap : List Char) : List Char :=
  match gap.filter isBreak with
  | [] => gap
  | '\n' :: [] => [' ']
  | '\n' :: breaks => breaks
  | breaks => breaks

namespace Plain

/-- A scalar, whether its last gap had a break, and the rest of the text. -/
structure Result where
  text : List Char
  broken : Bool
  rest : List Placed

/-- Where a word ends: at a colon with a blank after it, and within brackets at their marks. -/
def endsAt (flow : Bool) (c : Char) (next : Option Char) : Bool :=
  (c == ':' && endsWord next) || (flow && [',', '[', ']', '\x7b', '\x7d'].contains c)

/-- Within brackets a colon and these marks may not touch. -/
def clashes (flow : Bool) (c : Char) (next : Option Char) : Bool :=
  flow && c == ':' && next.any fun d => [',', '?', '[', ']', '\x7b', '\x7d'].contains d

/-- Reads on; `read` and `gap` hold the characters of the scalar and of the gap after it so far, the last
one first. Lines that go on the scalar are indented by at least `indent`, unless within brackets. -/
def readFrom (flow : Bool) (indent : Int) (read gap : List Char) :
    List Placed → Except Error Result
  | [] => .ok ⟨read.reverse, gap.any isBreak, []⟩
  | p :: ps =>
    let stop : Except Error Result := .ok ⟨read.reverse, gap.any isBreak, p :: ps⟩
    if isBreak p.char then readFrom flow indent read (p.char :: gap) ps
    else if isGap p.char then
      if p.char = '\t' ∧ gap.any isBreak ∧ p.column < indent then .error (.misplaced "tab")
      else readFrom flow indent read (p.char :: gap) ps
    else if gap ≠ [] ∧ (p.char = '#' ∨ (!flow ∧ p.column < indent)) then stop
    else if isDocumentMarker (p :: ps) then stop
    else if clashes flow p.char (ahead ps 0) then .error (.misplaced "colon")
    else if endsAt flow p.char (ahead ps 0) then stop
    else readFrom flow indent (p.char :: (foldGap gap.reverse).reverse ++ read) [] ps

def read (flow : Bool) (indent : Int) (ps : List Placed) : Except Error Result :=
  readFrom flow indent [] [] ps

end Plain
end Checkpointing.Yaml
