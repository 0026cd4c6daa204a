import Checkpointing.Json.Scalar

/-! Values of unknown members are passed over. They must be well formed, but may be nested to any depth
and hold numbers of any size. -/

namespace Checkpointing.Json
set_option autoImplicit false

def skipExponent (cs : List Char) : Except Error (List Char) :=
  let cs := match cs with
    | '+' :: cs | '-' :: cs => cs
    | cs => cs
  if startsWithDigit cs then .ok (cs.dropWhile isDigit) else .error .malformed

def skipAfterDigits : List Char → Except Error (List Char)
  | 'e' :: cs | 'E' :: cs => skipExponent cs
  | cs => .ok cs

def skipAfterWhole : List Char → Except Error (List Char)
  | '.' :: cs =>
    if startsWithDigit cs then skipAfterDigits (cs.dropWhile isDigit) else .error .malformed
  | cs => skipAfterDigits cs

def skipMagnitude : List Char → Except Error (List Char)
  | '0' :: cs => if startsWithDigit cs then .error .malformed else skipAfterWhole cs
  | cs => if startsWithDigit cs then skipAfterWhole (cs.dropWhile isDigit) else .error .malformed

/-- Passes over a value that is neither a sequence nor a map. -/
def skipLeaf : List Char → Except Error (List Char)
  | [] => .error .truncated
  | 'n' :: cs => literal "ull".toList cs
  | 't' :: cs => literal "rue".toList cs
  | 'f' :: cs => literal "alse".toList cs
  | '"' :: cs => skipString .plain cs
  | '-' :: cs => skipMagnitude cs
  | c :: cs => if isDigit c then skipMagnitude (c :: cs) else .error .malformed

/-- A bracket that has been opened. -/
inductive Frame where
  | sequence
  | map
deriving DecidableEq, Repr

def Frame.closing : Frame → Char
  | .sequence => ']'
  | .map => '\x7d'

/-- What comes next: a value, the first member of what was just opened, or what follows a value. -/
inductive Next where
  | value
  | first
  | rest
deriving DecidableEq, Repr

/-- Passes over the name and the colon of a map's member. -/
def skipName (cs : List Char) : Except Error (List Char) :=
  match skipSpace cs with
  | [] => .error .truncated
  | '"' :: cs => do readColon (← skipString .plain cs)
  | _ => .error .malformed

/-- Passes over the name of a member, if the member has one. -/
def skipMemberName : Frame → List Char → Except Error (List Char)
  | .sequence, cs => .ok cs
  | .map, cs => skipName cs

/-- Reads on within open brackets, the innermost first, until all are closed. Of two steps one
takes at least a character. -/
def skipFrom : (steps : Nat) → Next → List Frame → List Char → Except Error (List Char)
  | 0, _, _, _ => .error .truncated
  | steps + 1, .value, open_, cs =>
    match skipSpace cs with
    | '[' :: cs => skipFrom steps .first (.sequence :: open_) cs
    | '\x7b' :: cs => skipFrom steps .first (.map :: open_) cs
    | cs => do skipFrom steps .rest open_ (← skipLeaf cs)
  | _ + 1, _, [], cs => .ok cs
  | steps + 1, next, frame :: open_, cs =>
    match skipSpace cs with
    | [] => .error .truncated
    | c :: cs =>
      if c = frame.closing then skipFrom steps .rest open_ cs
      else if next = .first then do skipFrom steps .value (frame :: open_) (← skipMemberName frame (c :: cs))
      else if c = ',' then do skipFrom steps .value (frame :: open_) (← skipMemberName frame cs)
      else .error .malformed

def skipValue (cs : List Char) : Except Error (List Char) :=
  skipFrom (2 * cs.length + 2) .value [] cs

end Checkpointing.Json
