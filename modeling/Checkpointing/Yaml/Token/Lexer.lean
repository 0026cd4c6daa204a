import Checkpointing.Yaml.Token.Block
import Checkpointing.Yaml.Token.Name
import Checkpointing.Yaml.Token.Plain
import Checkpointing.Yaml.Token.Quoted

/-!
# From text to tokens

Tokens are read from left to right. A scalar, a name or an opening bracket may turn out to be a key
only when the colon after it is met; so the place of each that could be one is kept, and the token for
a key is put there afterwards. Such a key is on one line and at most 1024 octets long.
-/

namespace Checkpointing.Yaml
set_option autoImplicit false

/-- Where a key may have started. -/
structure PossibleKey where
  /-- the number of the token that may be the key -/
  number : Nat
  /-- whether nothing but a key can stand there -/
  required : Bool
  start : Placed
deriving DecidableEq, Repr

structure Lexer where
  rest : List Placed
  /-- the tokens so far, the last one first -/
  tokens : List Token
  count : Nat
  /-- the indentation of the innermost block, or -1 -/
  indent : Int
  /-- the indentations of the blocks around it -/
  indents : List Int
  /-- the possible key within the innermost brackets -/
  key : Option PossibleKey
  /-- those outside of it, one for each pair of brackets that is open -/
  outerKeys : List (Option PossibleKey)
  /-- whether a key may start here without a mark -/
  keyAllowed : Bool

namespace Lexer

def start (ps : List Placed) : Lexer := ⟨ps, [], 0, -1, [], none, [], true⟩

def inFlow (s : Lexer) : Bool := !s.outerKeys.isEmpty

def emit (s : Lexer) (t : Token) : Lexer := { s with tokens := t :: s.tokens, count := s.count + 1 }

/-- Puts tokens before the token of a number that has been read already. -/
def putBefore (s : Lexer) (number : Nat) (ts : List Token) : Lexer :=
  let later := s.count - number
  { s with
    tokens := s.tokens.take later ++ ts.reverse ++ s.tokens.drop later
    count := s.count + ts.length }

/-- Reads on after some characters, with a token for them. -/
def take (s : Lexer) (n : Nat) (t : Token) : Lexer := ({ s with rest := s.rest.drop n }).emit t

def column (s : Lexer) : Int :=
  match s.rest with
  | p :: _ => p.column
  | [] => -1

/-- Ends the blocks that are indented further than `column`. Brackets hide indentation. -/
def endBlocks (s : Lexer) (column : Int) : Lexer :=
  if s.inFlow then s
  else
    let ended := (s.indent :: s.indents).takeWhile (· > column)
    match (s.indent :: s.indents).drop ended.length with
    | indent :: indents =>
      { s with
        tokens := ended.map (fun _ => Token.blockEnd) ++ s.tokens
        count := s.count + ended.length
        indent := indent
        indents := indents }
    | [] => s

/-- Whether a block starts at a column, and with it the lexer inside that block. -/
def openBlock (s : Lexer) (column : Int) : Bool × Lexer :=
  if !s.inFlow && s.indent < column then
    (true, { s with indent := column, indents := s.indent :: s.indents })
  else (false, s)

/-- Starts a block here if it is indented further than the one around it. -/
def startBlock (s : Lexer) (t : Token) : Lexer :=
  match s.openBlock s.column with
  | (true, s) => s.emit t
  | (false, s) => s

def dropKey (s : Lexer) : Except Error Lexer :=
  if s.key.any PossibleKey.required then .error (.malformed "key") else .ok { s with key := none }

def noteKey (s : Lexer) : Except Error Lexer :=
  match s.rest with
  | p :: _ =>
    if s.keyAllowed then do
      let s ← s.dropKey
      return { s with key := some ⟨s.count, !s.inFlow && s.indent == p.column, p⟩ }
    else .ok s
  | [] => .ok s

/-- A key that has become too long or has left its line is none. -/
def refresh (p : Placed) : Option PossibleKey → Except Error (Option PossibleKey)
  | none => .ok none
  | some key =>
    if key.start.line < p.line ∨ key.start.index + 1024 < p.index then
      if key.required then .error (.malformed "key") else .ok none
    else .ok (some key)

def refreshKeys (s : Lexer) : Except Error Lexer :=
  match s.rest with
  | [] => .ok s
  | p :: _ => do
    return { s with key := ← refresh p s.key, outerKeys := ← s.outerKeys.mapM (refresh p) }

/-- Passes over blanks, comments, empty lines and a byte order mark at the start of a line. A tab may
not stand where a key may start, except within brackets. After a break a key may start, unless within
brackets. -/
def skipFrom (flow keyAllowed : Bool) (comment : Bool) : List Placed → List Placed × Bool
  | [] => ([], keyAllowed)
  | p :: ps =>
    if isBreak p.char then skipFrom flow (keyAllowed || !flow) false ps
    else if comment then skipFrom flow keyAllowed true ps
    else if p.char = ' ' ∨ (p.char = '\t' ∧ (flow ∨ !keyAllowed)) then
      skipFrom flow keyAllowed false ps
    else if p.char = '#' then skipFrom flow keyAllowed true ps
    else if p.char.toNat = 0xFEFF ∧ p.column = 0 then skipFrom flow keyAllowed false ps
    else (p :: ps, keyAllowed)

def skip (s : Lexer) : Lexer :=
  let (rest, keyAllowed) := skipFrom s.inFlow s.keyAllowed false s.rest
  { s with rest := rest, keyAllowed := keyAllowed }

/-- Ends all blocks before a mark or directive between documents. -/
def leaveDocument (s : Lexer) : Except Error Lexer := do
  return { ← (s.endBlocks (-1)).dropKey with keyAllowed := false }

def openBracket (s : Lexer) (t : Token) : Except Error Lexer := do
  let s ← s.noteKey
  return { s.take 1 t with key := none, outerKeys := s.key :: s.outerKeys, keyAllowed := true }

def closeBracket (s : Lexer) (t : Token) : Except Error Lexer := do
  let s ← s.dropKey
  let s := match s.outerKeys with
    | key :: keys => { s with key := key, outerKeys := keys }
    | [] => s
  return { s.take 1 t with keyAllowed := false }

/-- A mark that starts something in a block: an entry or a key. Elsewhere than within brackets it must
stand where a key may start. -/
def startEntry (s : Lexer) (t opening : Token) (keyAllowed : Bool) : Except Error Lexer := do
  if !s.inFlow && !s.keyAllowed then
    throw (.misplaced "entry")
  let s ← (s.startBlock opening).dropKey
  return { s.take 1 t with keyAllowed := keyAllowed }

/-- The colon after a key. If the key had no mark of its own it gets its token now, and with it the
block that it starts. -/
def startValue (s : Lexer) : Except Error Lexer := do
  match s.key with
  | some key =>
    let (opens, s) := s.openBlock key.start.column
    let s := s.putBefore key.number (if opens then [.blockMappingStart, .key] else [.key])
    return { s.take 1 .value with key := none, keyAllowed := false }
  | none =>
    if !s.inFlow && !s.keyAllowed then
      throw (.misplaced "value")
    let s := s.startBlock .blockMappingStart
    return { s.take 1 .value with keyAllowed := !s.inFlow }

/-- A name or scalar that may be a key. -/
def startKey (s : Lexer) (read : List Placed → Except Error (Token × List Placed)) :
    Except Error Lexer := do
  let s ← s.noteKey
  let (t, rest) ← read (s.rest.drop 1)
  return { s.emit t with rest := rest, keyAllowed := false }

def quoted (single : Bool) (ps : List Placed) : Except Error (Token × List Placed) := do
  let (text, rest) ← Quoted.read single ps
  return (.scalar (String.ofList text) false, rest)

def block (s : Lexer) (folded : Bool) : Except Error Lexer := do
  let s ← s.dropKey
  let (text, rest) ← Block.read folded s.indent (s.rest.drop 1)
  return { s.emit (.scalar (String.ofList text) false) with rest := rest, keyAllowed := true }

def plain (s : Lexer) : Except Error Lexer := do
  let s ← s.noteKey
  let r ← Plain.read s.inFlow (s.indent + 1) s.rest
  return { s.emit (.scalar (String.ofList r.text) true) with rest := r.rest, keyAllowed := r.broken }

/-- The characters that no plain scalar starts with. -/
def isIndicator (c : Char) : Bool :=
  ['-', '?', ':', ',', '[', ']', '\x7b', '\x7d', '#', '&', '*', '!', '|', '>', '\'', '"', '%', '@',
    '`'].contains c

/-- Some indicators start a plain scalar if no blank follows them. -/
def startsPlain (flow : Bool) (c : Char) (next : Option Char) : Bool :=
  !(isGap c || isIndicator c) || (c == '-' && !next.any isGap) ||
    (!flow && (c == '?' || c == ':') && !endsWord next)

def readToken (s : Lexer) (c : Char) : Except Error Lexer :=
  let next := ahead s.rest 1
  if c = '%' ∧ s.column = 0 then do
    let s ← s.leaveDocument
    let (t, rest) ← Name.readDirective (s.rest.drop 1)
    return { s.emit t with rest := rest }
  else if isMarker '-' s.rest then do return (← s.leaveDocument).take 3 .documentStart
  else if isMarker '.' s.rest then do return (← s.leaveDocument).take 3 .documentEnd
  else if c = '[' then s.openBracket .flowSequenceStart
  else if c = '\x7b' then s.openBracket .flowMappingStart
  else if c = ']' then s.closeBracket .flowSequenceEnd
  else if c = '\x7d' then s.closeBracket .flowMappingEnd
  else if c = ',' then do return { (← s.dropKey).take 1 .flowEntry with keyAllowed := true }
  else if c = '-' ∧ endsWord next then s.startEntry .blockEntry .blockSequenceStart true
  else if c = '?' ∧ (s.inFlow ∨ endsWord next) then
    s.startEntry .key .blockMappingStart (!s.inFlow)
  else if c = ':' ∧ (s.inFlow ∨ endsWord next) then s.startValue
  else if c = '*' then s.startKey fun ps => (Name.readAnchor ps).map fun (n, r) => (.alias n, r)
  else if c = '&' then s.startKey fun ps => (Name.readAnchor ps).map fun (n, r) => (.anchor n, r)
  else if c = '!' then s.startKey (Name.readWholeTag s.inFlow)
  else if c = '|' ∧ !s.inFlow then s.block false
  else if c = '>' ∧ !s.inFlow then s.block true
  else if c = '\'' then s.startKey (quoted true)
  else if c = '"' then s.startKey (quoted false)
  else if startsPlain s.inFlow c next then s.plain
  else .error (.malformed "token")

def finish (s : Lexer) : Except Error (List Token) := do
  let s ← s.leaveDocument
  return s.tokens.reverse

/-- Reads all tokens. Each takes a character at least. -/
def run : (steps : Nat) → Lexer → Except Error (List Token)
  | 0, s => s.finish
  | steps + 1, s => do
    let s ← s.skip.refreshKeys
    match s.rest with
    | [] => s.finish
    | p :: _ => run steps (← (s.endBlocks p.column).readToken p.char)

end Lexer

def Token.ofText (text : String) : Except Error (List Token) :=
  if text.toList.all isAllowed then
    let ps := place text.toList
    (Lexer.start ps).run (ps.length + 1)
  else .error .controlCharacter

end Checkpointing.Yaml
