import Checkpointing.Json.Text
import Checkpointing.Yaml.Token.Plain

/-! Quoted scalars. Gaps are folded as in plain ones. Between double quotes a backslash starts an escape;
between single quotes a quote is written twice. -/

namespace Checkpointing.Yaml.Quoted
set_option autoImplicit false

/-- What a letter after a backslash stands for. -/
def escape? : Char → Option Char
  | '0' => some '\x00'
  | 'a' => some '\x07'
  | 'b' => some '\x08'
  | 't' | '\t' => some '\t'
  | 'n' => some '\n'
  | 'v' => some '\x0b'
  | 'f' => some '\x0c'
  | 'r' => some '\r'
  | 'e' => some '\x1b'
  | ' ' => some ' '
  | '"' => some '"'
  | '/' => some '/'
  | '\\' => some '\\'
  | 'N' => some '\u0085'
  | '_' => some '\u00a0'
  | 'L' => some '\u2028'
  | 'P' => some '\u2029'
  | _ => none

/-- How many hexadecimal digits follow this letter after a backslash. -/
def codeLength? : Char → Option Nat
  | 'x' => some 2
  | 'u' => some 4
  | 'U' => some 8
  | _ => none

inductive Phase where
  | plain
  /-- after a quote that is the first of two -/
  | doubled
  | escape
  | code (left value : Nat)
deriving DecidableEq, Repr

/-- The blanks and breaks since the last word, the last one first. A break that is escaped before them
hides the blanks. -/
structure Gap where
  escaped : Bool
  chars : List Char

def Gap.empty : Gap := ⟨false, []⟩

def Gap.text (g : Gap) : List Char :=
  if g.escaped then g.chars.reverse.filter isBreak else foldGap g.chars.reverse

def unclosed : Error := .malformed "quoted scalar"

def ofCode (n : Nat) : Except Error Char :=
  if h : n.isValidChar then .ok (Char.ofNatAux n h) else .error (.malformed "escape")

/-- Reads to the closing quote; `read` holds the characters so far, the last one first. -/
def readFrom (single : Bool) (phase : Phase) (read : List Char) (gap : Gap) :
    List Placed → Except Error (List Char × List Placed)
  | [] => .error unclosed
  | p :: ps =>
    let c := p.char
    match phase with
    | .doubled => readFrom single .plain (c :: read) .empty ps
    | .escape =>
      if isBreak c then readFrom single .plain read ⟨true, []⟩ ps
      else
        match escape? c, codeLength? c with
        | some e, _ => readFrom single .plain (e :: read) .empty ps
        | none, some length => readFrom single (.code length 0) read .empty ps
        | none, none => .error (.malformed "escape")
    | .code left value =>
      match Json.hexDigit? c with
      | none => .error (.malformed "escape")
      | some d =>
        if left ≤ 1 then
          match ofCode (value * 16 + d) with
          | .ok e => readFrom single .plain (e :: read) .empty ps
          | .error e => .error e
        else readFrom single (.code (left - 1) (value * 16 + d)) read .empty ps
    | .plain =>
      let filled := gap.text.reverse ++ read
      if isBreak c || isGap c then readFrom single .plain read { gap with chars := c :: gap.chars } ps
      else if isDocumentMarker (p :: ps) then .error unclosed
      else if single && c == '\'' then
        if ahead ps 0 = some '\'' then readFrom single .doubled filled .empty ps
        else .ok (filled.reverse, ps)
      else if !single && c == '"' then .ok (filled.reverse, ps)
      else if !single && c == '\\' then readFrom single .escape filled .empty ps
      else readFrom single .plain (c :: filled) .empty ps

/-- Reads a scalar after its opening quote. -/
def read (single : Bool) (ps : List Placed) : Except Error (List Char × List Placed) :=
  readFrom single .plain [] .empty ps

end Checkpointing.Yaml.Quoted
