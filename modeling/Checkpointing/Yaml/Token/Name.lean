import Checkpointing.Json.Text
import Checkpointing.Yaml.Error
import Checkpointing.Yaml.Placed
import Checkpointing.Yaml.Token

/-! Names in a YAML text: anchors and aliases, tags, and the directives before a document. -/

namespace Checkpointing.Yaml.Name
set_option autoImplicit false

def string (ps : List Placed) : String := String.ofList (ps.map Placed.char)

def word (ps : List Placed) : List Placed := ps.takeWhile fun p => isWordChar p.char

def dropWord (ps : List Placed) : List Placed := ps.dropWhile fun p => isWordChar p.char

/-- Reads the name of an anchor or alias. A blank or one of some marks ends it. -/
def readAnchor (ps : List Placed) : Except Error (String × List Placed) :=
  let next := ahead (dropWord ps) 0
  if word ps ≠ [] ∧
      (endsWord next ∨ next.any fun c => ['?', ':', ',', ']', '\x7d', '%', '@', '`'].contains c) then
    .ok (string (word ps), dropWord ps)
  else
    .error (.malformed "anchor")

/-- The characters of a tag; within angle brackets some more. -/
def isTagChar (verbatim : Bool) (c : Char) : Bool :=
  isWordChar c ||
    [';', '/', '?', ':', '@', '&', '=', '+', '$', '.', '!', '~', '*', '\'', '(', ')'].contains c ||
    (verbatim && [',', '[', ']'].contains c)

/-- Where the reading of a tag's text stands: between characters, or among the octets of one. `left`
octets are still to come, and `value` is what has come. -/
inductive Place where
  | plain
  | octets (width left value : Nat)
deriving DecidableEq, Repr

/-- Takes an octet in: the next place, perhaps with what has been said. -/
def afterOctet (n : Nat) : Place → Except Error (Place × Option (Option Char))
  | .plain =>
    match leadOctet? n with
    | none => .error (.malformed "tag")
    | some (1, value) => .ok (.plain, some (charOfOctets? 1 value))
    | some (width, value) => .ok (.octets width (width - 1) value, none)
  | .octets width left value =>
    if n / 64 ≠ 2 then .error (.malformed "tag")
    else if left ≤ 1 then .ok (.plain, some (charOfOctets? width (value * 64 + n % 64)))
    else .ok (.octets width (left - 1) (value * 64 + n % 64), none)

/-- Reads a tag's text. A percent sign writes an octet as two hexadecimal digits. -/
def readUri (verbatim : Bool) (place : Place) (read : List (Option Char)) :
    List Placed → Except Error (List (Option Char) × List Placed)
  | [] => if place = .plain then .ok (read.reverse, []) else .error (.malformed "tag")
  | p :: ps =>
    if p.char = '%' then
      match ps with
      | a :: b :: rest =>
        match Json.hexDigit? a.char, Json.hexDigit? b.char with
        | some x, some y =>
          match afterOctet (x * 16 + y) place with
          | .error e => .error e
          | .ok (next, some c) => readUri verbatim next (c :: read) rest
          | .ok (next, none) => readUri verbatim next read rest
        | _, _ => .error (.malformed "tag")
      | _ => .error (.malformed "tag")
    else if place ≠ .plain then .error (.malformed "tag")
    else if isTagChar verbatim p.char then readUri verbatim .plain (some p.char :: read) ps
    else .ok (read.reverse, p :: ps)

/-- Reads a tag's text that may not be empty. -/
def readSomeUri (verbatim : Bool) (ps : List Placed) : Except Error (Tag × List Placed) := do
  let (letters, rest) ← readUri verbatim .plain [] ps
  if letters = [] then throw (.malformed "tag") else pure (Tag.beforeNull ⟨letters⟩, rest)

def readTag (ps : List Placed) : Except Error (Token × List Placed) := do
  if ahead ps 0 = some '<' then
    let (suffix, rest) ← readSomeUri true (ps.drop 1)
    if ahead rest 0 = some '>' then pure (.tag "" suffix, rest.drop 1)
    else throw (.malformed "tag")
  else if ahead (dropWord ps) 0 = some '!' then
    let (suffix, rest) ← readSomeUri false ((dropWord ps).drop 1)
    pure (.tag ("!" ++ string (word ps) ++ "!") suffix, rest)
  else
    let start := ((word ps).map fun p => some p.char).reverse
    let (letters, rest) ← readUri false .plain start (dropWord ps)
    let suffix := Tag.beforeNull ⟨letters⟩
    if suffix.letters = [] then pure (.tag "" (.ofString "!"), rest)
    else pure (.tag "!" suffix, rest)

/-- Reads a tag where it must end: at a blank, or within brackets at a comma. -/
def readWholeTag (flow : Bool) (ps : List Placed) : Except Error (Token × List Placed) := do
  let (token, rest) ← readTag ps
  if endsWord (ahead rest 0) ∨ (flow ∧ ahead rest 0 = some ',') then pure (token, rest)
  else throw (.malformed "tag")

/-- Reads a number of a version, of at most nine digits. -/
def readNumber (ps : List Placed) : Except Error (Nat × List Placed) :=
  let digits := ps.takeWhile fun p => p.char.isDigit
  if digits = [] ∨ digits.length > 9 then .error (.malformed "directive")
  else
    .ok (digits.foldl (fun n p => n * 10 + (p.char.toNat - '0'.toNat)) 0, ps.drop digits.length)

def readHandle (ps : List Placed) : Except Error (String × List Placed) :=
  if ahead ps 0 ≠ some '!' then .error (.malformed "directive")
  else
    let name := word (ps.drop 1)
    let rest := dropWord (ps.drop 1)
    if ahead rest 0 = some '!' then .ok ("!" ++ string name ++ "!", rest.drop 1)
    else if name = [] then .ok ("!", rest)
    else .error (.malformed "directive")

/-- Reads what a directive of that name says. -/
def readDirectiveValue (name : String) (ps : List Placed) : Except Error (Token × List Placed) := do
  match name with
  | "YAML" =>
    let (major, rest) ← readNumber (dropGap ps)
    if ahead rest 0 ≠ some '.' then
      throw (.malformed "directive")
    let (minor, rest) ← readNumber (rest.drop 1)
    pure (.version major minor, rest)
  | "TAG" =>
    let (handle, rest) ← readHandle (dropGap ps)
    if !(ahead rest 0).any isGap then
      throw (.malformed "directive")
    let (start, rest) ← readSomeUri true (dropGap rest)
    if !endsWord (ahead rest 0) then
      throw (.malformed "directive")
    pure (.handle handle start, rest)
  | _ => throw (.malformed "directive")

/-- Reads a directive after its percent sign, with the rest of its line. -/
def readDirective (ps : List Placed) : Except Error (Token × List Placed) := do
  if word ps = [] ∨ !endsWord (ahead (dropWord ps) 0) then
    throw (.malformed "directive")
  let (token, rest) ← readDirectiveValue (string (word ps)) (dropWord ps)
  let rest := dropComment rest
  if endsLine (ahead rest 0) then pure (token, rest.drop 1) else throw (.malformed "directive")

end Checkpointing.Yaml.Name
