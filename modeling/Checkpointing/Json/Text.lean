import Checkpointing.Json.Error

/-! Strings in JSON text, read one character at a time after their opening quote. -/

namespace Checkpointing.Json
set_option autoImplicit false

def hexDigit? (c : Char) : Option Nat :=
  if '0' ≤ c ∧ c ≤ '9' then some (c.toNat - '0'.toNat)
  else if 'a' ≤ c ∧ c ≤ 'f' then some (c.toNat - 'a'.toNat + 10)
  else if 'A' ≤ c ∧ c ≤ 'F' then some (c.toNat - 'A'.toNat + 10)
  else none

/-- The character that a letter after a backslash stands for. -/
def escape? : Char → Option Char
  | '"' => some '"'
  | '\\' => some '\\'
  | '/' => some '/'
  | 'b' => some '\x08'
  | 'f' => some '\x0c'
  | 'n' => some '\n'
  | 'r' => some '\r'
  | 't' => some '\t'
  | _ => none

/-- Whether less than four bytes are left, too few for the digits of an escape. -/
def isShort (cs : List Char) : Bool := (cs.take 4).foldl (fun bytes c => bytes + c.utf8Size) 0 < 4

def isHighSurrogate (n : Nat) : Bool := 0xD800 ≤ n && n ≤ 0xDBFF
def isLowSurrogate (n : Nat) : Bool := 0xDC00 ≤ n && n ≤ 0xDFFF

/-- Where the reading of a string stands. `high` is the first half of a surrogate pair. -/
inductive Place where
  | plain
  | escape
  | hex (left value : Nat) (high : Option Nat)
  | pairBackslash (high : Nat)
  | pairLetter (high : Nat)
deriving DecidableEq, Repr

/-- What four hexadecimal digits lead to: another place, perhaps with a character. Surrogates must
come in pairs. -/
def afterHex (n : Nat) : Option Nat → Except Error (Place × Option Char)
  | none =>
    if isLowSurrogate n then .error .malformed
    else if isHighSurrogate n then .ok (.pairBackslash n, none)
    else .ok (.plain, some (Char.ofNat n))
  | some high =>
    if isLowSurrogate n then
      .ok (.plain, some (Char.ofNat (0x10000 + (high - 0xD800) * 0x400 + (n - 0xDC00))))
    else .error .malformed

/-- Reads a string to its closing quote; `read` holds its characters so far, the last one first. -/
def stringFrom (place : Place) (read : List Char) : List Char → Except Error (String × List Char)
  | [] => .error .truncated
  | c :: cs =>
    match place with
    | .plain =>
      if c = '"' then .ok (String.ofList read.reverse, cs)
      else if c = '\\' then stringFrom .escape read cs
      else if c.toNat < 0x20 then .error .malformed
      else stringFrom .plain (c :: read) cs
    | .escape =>
      if c = 'u' then
        if isShort cs then .error .truncated else stringFrom (.hex 4 0 none) read cs
      else
        match escape? c with
        | some e => stringFrom .plain (e :: read) cs
        | none => .error .malformed
    | .hex left value high =>
      match hexDigit? c with
      | none => .error .malformed
      | some d =>
        if left ≤ 1 then
          match afterHex (value * 16 + d) high with
          | .error e => .error e
          | .ok (next, some e) => stringFrom next (e :: read) cs
          | .ok (next, none) => stringFrom next read cs
        else stringFrom (.hex (left - 1) (value * 16 + d) high) read cs
    | .pairBackslash high =>
      if c = '\\' then stringFrom (.pairLetter high) read cs else .error .malformed
    | .pairLetter high =>
      if c = 'u' then
        if isShort cs then .error .truncated else stringFrom (.hex 4 0 (some high)) read cs
      else .error .malformed

/-- Passes over a string whose characters do not matter, so surrogates need no partner. -/
def skipString (place : Place) : List Char → Except Error (List Char)
  | [] => .error .truncated
  | c :: cs =>
    match place with
    | .escape =>
      if c = 'u' then
        if isShort cs then .error .truncated else skipString (.hex 4 0 none) cs
      else if (escape? c).isSome then skipString .plain cs
      else .error .malformed
    | .hex left _ _ =>
      if (hexDigit? c).isNone then .error .malformed
      else skipString (if left ≤ 1 then .plain else .hex (left - 1) 0 none) cs
    | _ =>
      if c = '"' then .ok cs
      else if c = '\\' then skipString .escape cs
      else if c.toNat < 0x20 then .error .malformed
      else skipString .plain cs

end Checkpointing.Json
