/-!
# Tags

A tag is written in characters, some of them as octets of UTF-8 after percent signs. Octets may be put
together as UTF-8 asks and still say no character: a surrogate, a character in more octets than it
needs, or a number past the last character. Such a tag has no text, but it is a tag.
-/

namespace Checkpointing.Yaml
set_option autoImplicit false

structure Tag where
  /-- what is written, in order; `none` stands for octets that say no character -/
  letters : List (Option Char)
deriving DecidableEq, Repr

namespace Tag

def ofChars (cs : List Char) : Tag := ⟨cs.map some⟩

def ofString (s : String) : Tag := ofChars s.toList

/-- The text of a tag, if it says characters only. -/
def text? (t : Tag) : Option String := (t.letters.mapM id).map String.ofList

instance : Append Tag := ⟨fun s t => ⟨s.letters ++ t.letters⟩⟩

/-- Whether a tag belongs to the document, and not to a scheme of tags for all. -/
def isOwn (t : Tag) : Bool := t.letters.head? == some (some '!')

/-- A tag ends before a null character. -/
def beforeNull (t : Tag) : Tag := ⟨t.letters.takeWhile (· != some '\x00')⟩

end Tag

/-- The number of octets that a first octet announces, and its share of the character. -/
def leadOctet? (n : Nat) : Option (Nat × Nat) :=
  if n < 0x80 then some (1, n)
  else if n < 0xC0 then none
  else if n < 0xE0 then some (2, n - 0xC0)
  else if n < 0xF0 then some (3, n - 0xE0)
  else if n < 0xF8 then some (4, n - 0xF0)
  else none

/-- The least number that needs so many octets. -/
def leastOf : (width : Nat) → Nat
  | 2 => 0x80
  | 3 => 0x800
  | 4 => 0x10000
  | _ => 0

def charOfOctets? (width value : Nat) : Option Char :=
  if leastOf width ≤ value ∧ value.isValidChar then some (Char.ofNat value) else none

end Checkpointing.Yaml
