/-! The characters of a YAML text with their places. Line breaks of all kinds but the two Unicode
separators count as a line feed. -/

namespace Checkpointing.Yaml
set_option autoImplicit false

/-- The characters that a text may hold. -/
def isAllowed (c : Char) : Bool :=
  c == '\t' || c == '\n' || c == '\r' || (0x20 ≤ c.toNat && c.toNat ≤ 0x7E) || c.toNat == 0x85 ||
  (0xA0 ≤ c.toNat && c.toNat ≤ 0xFFFD) || 0x10000 ≤ c.toNat

/-- The line feed and the line and paragraph separators. -/
def isBreak (c : Char) : Bool := c == '\n' || c.toNat == 0x2028 || c.toNat == 0x2029

def isGap (c : Char) : Bool := c == ' ' || c == '\t'

/-- The characters of anchors, of tag handles and of directive names. -/
def isWordChar (c : Char) : Bool := c.isAlphanum || c == '_' || c == '-'

/-- Writes carriage returns, with or without a line feed, and next-line characters as line feeds. -/
def unifyBreaks : List Char → List Char
  | '\r' :: '\n' :: cs => '\n' :: unifyBreaks cs
  | c :: cs => (if c = '\r' ∨ c.toNat = 0x85 then '\n' else c) :: unifyBreaks cs
  | [] => []

structure Placed where
  char : Char
  line : Nat
  column : Nat
  /-- how many octets of UTF-8 come before -/
  index : Nat
deriving DecidableEq, Repr

def placeFrom (line column index : Nat) : List Char → List Placed
  | [] => []
  | c :: cs =>
    ⟨c, line, column, index⟩ ::
      if isBreak c then placeFrom (line + 1) 0 (index + c.utf8Size) cs
      else placeFrom line (column + 1) (index + c.utf8Size) cs

def place (cs : List Char) : List Placed := placeFrom 0 0 0 (unifyBreaks cs)

/-- The character that many places ahead. -/
def ahead (ps : List Placed) (n : Nat) : Option Char := ps[n]?.map Placed.char

/-- Whether this is a blank, a break or the end. -/
def endsWord : Option Char → Bool
  | none => true
  | some c => isGap c || isBreak c

/-- Whether this is a break or the end. -/
def endsLine : Option Char → Bool
  | none => true
  | some c => isBreak c

def dropGap (ps : List Placed) : List Placed := ps.dropWhile fun p => isGap p.char

/-- What is left of a line after blanks and a comment. -/
def dropComment (ps : List Placed) : List Placed :=
  match dropGap ps with
  | p :: ps => if p.char = '#' then ps.dropWhile fun p => !isBreak p.char else p :: ps
  | [] => []

/-- Three characters at the start of a line that a blank or break follows. -/
def isMarker (c : Char) (ps : List Placed) : Bool :=
  (ps.head?.any (·.column == 0)) && ahead ps 0 == some c && ahead ps 1 == some c &&
    ahead ps 2 == some c && endsWord (ahead ps 3)

/-- Whether a document starts or ends here. -/
def isDocumentMarker (ps : List Placed) : Bool := isMarker '-' ps || isMarker '.' ps

end Checkpointing.Yaml
