import Checkpointing.Duration.Basic
import Checkpointing.Failure
import Checkpointing.Numeral
import Checkpointing.Text.Blank

/-!
# Span text

A duration is written as a list of spans, each a number with an optional fraction and a unit:
`1h 30min`, `2.5 s`, `1day12h`. The text is read one character at a time. Places in error messages
are counted in bytes of UTF-8 from the start of the text.
-/

namespace Checkpointing.Span
set_option autoImplicit false

inductive Unit where
  | nanosecond | microsecond | millisecond | second | minute | hour | day | week | month | year
deriving DecidableEq, Repr

/-- Why a span text is refused. Places are byte offsets. -/
inductive Error where
  | empty
  | numberExpected (place : Nat)
  | invalidCharacter (place : Nat)
  | outOfRange
  | unknownUnit (name : String) (number : Nat)
deriving DecidableEq, Repr

def Error.message : Error → String
  | .empty => "value was empty"
  | .numberExpected place => s!"expected number at {place}"
  | .invalidCharacter place => s!"invalid character at {place}"
  | .outOfRange =>
    "number is too large or cannot be represented without a lack of precision " ++
      "(values below 1ns are not supported)"
  | .unknownUnit name number =>
    if name = "" then
      s!"time unit needed, for example {number}sec or {number}ms"
    else
      "unknown time unit \"" ++ name ++ "\", supported units: ns, us/µs, ms, sec, min, hours, days, " ++
        "weeks, months, years (and few variations)"

def Unit.names : Unit → List String
  | .nanosecond => ["nanos", "nsec", "ns"]
  | .microsecond => ["usec", "us", "µs"]
  | .millisecond => ["millis", "msec", "ms"]
  | .second => ["seconds", "second", "secs", "sec", "s"]
  | .minute => ["minutes", "minute", "min", "mins", "m"]
  | .hour => ["hours", "hour", "hrs", "hr", "h"]
  | .day => ["days", "day", "d"]
  | .week => ["weeks", "week", "wk", "wks", "w"]
  | .month => ["months", "month", "M"]
  | .year => ["years", "year", "yrs", "yr", "y"]

def Unit.all : List Unit :=
  [.nanosecond, .microsecond, .millisecond, .second, .minute, .hour, .day, .week, .month, .year]

def Unit.ofName? (name : String) : Option Unit := Unit.all.find? fun u => u.names.contains name

/-- An amount that a unit stands for, counted in seconds or in nanoseconds. -/
inductive Scale where
  | secs (n : Nat)
  | nanos (n : Nat)
deriving DecidableEq, Repr

/-- The amount that one of a unit counts. A month is a twelfth of a year and a bit, a year has 365¼
days. -/
def Unit.scale : Unit → Scale
  | .nanosecond => .nanos 1
  | .microsecond => .nanos 1000
  | .millisecond => .nanos 1000000
  | .second => .secs 1
  | .minute => .secs 60
  | .hour => .secs 3600
  | .day => .secs 86400
  | .week => .secs 604800
  | .month => .secs 2630016
  | .year => .secs 31557600

/-- The amount whose parts a fraction counts. A nanosecond has none. -/
def Unit.fractionScale? : Unit → Option Scale
  | .nanosecond => none
  | .second => some (.nanos 1000000000)
  | .minute => some (.nanos 60000000000)
  | unit => some unit.scale

/-- Counts are kept below 2^64. -/
def bounded (n : Nat) : Except (Failure Error) Nat :=
  if n < 0x10000000000000000 then .ok n else .error (.refused .outOfRange)

/-- Adds seconds and nanoseconds to a total. Nanoseconds are carried when they pass a whole second;
exactly one second of them is carried after the seconds have been checked, and an overflow there is
no refusal. -/
def add (total : Duration) (secs nanos : Nat) : Except (Failure Error) Duration := do
  let nanos ← bounded (total.nanos + nanos)
  let secs ← if nanos > 1000000000 then bounded (secs + nanos / 1000000000) else pure secs
  let nanos := if nanos > 1000000000 then nanos % 1000000000 else nanos
  let secs ← bounded (total.secs.toNat + secs)
  match Duration.ofParts? secs nanos with
  | some d => pure d
  | none => throw .overflow

def addScaled (total : Duration) (n : Nat) : Scale → Except (Failure Error) Duration
  | .secs k => do add total (← bounded (n * k)) 0
  | .nanos k => do add total 0 (← bounded (n * k))

/-- The digits after a point: their value, and ten to their number. -/
structure Fraction where
  numerator : Nat
  denominator : Nat
deriving DecidableEq, Repr

/-- Adds a fraction of a scale. The parts must be whole. -/
def addFraction (total : Duration) (f : Fraction) (scale : Scale) :
    Except (Failure Error) Duration := do
  let k := match scale with
    | .secs k => k
    | .nanos k => k
  let parts ← bounded (f.numerator * k)
  if parts % f.denominator = 0 then
    match scale with
    | .secs _ => add total (parts / f.denominator) 0
    | .nanos _ => add total 0 (parts / f.denominator)
  else
    throw (.refused .outOfRange)

/-- Adds a span that has been read: its whole number first, then its fraction. -/
def addSpan (total : Duration) (number : Nat) (fraction : Option Fraction) (name : List Char) :
    Except (Failure Error) Duration := do
  match Unit.ofName? (String.ofList name) with
  | none => throw (.refused (.unknownUnit (String.ofList name) number))
  | some unit =>
    let total ← addScaled total number unit.scale
    match fraction, unit.fractionScale? with
    | none, _ => pure total
    | some _, none => throw (.refused .outOfRange)
    | some f, some scale => addFraction total f scale

/-- What has been read of the current span. -/
inductive Phase where
  /-- nothing yet; `since` is where the last span ended -/
  | seeking (since : Nat)
  | number (n : Nat)
  /-- `place` is where a wrong character would be reported -/
  | fraction (n : Nat) (f : Fraction) (place : Nat)
  | unit (n : Nat) (f : Option Fraction) (name : List Char)
deriving DecidableEq, Repr

/-- `total` is absent until the first number starts. -/
structure State where
  total : Option Duration
  offset : Nat
  phase : Phase
deriving DecidableEq, Repr

def State.initial : State := ⟨none, 0, .seeking 0⟩

def State.sum (s : State) : Duration := s.total.getD .zero

/-- The letters of unit names: the ASCII letters and the micro sign. -/
def isUnitLetter (c : Char) : Bool := c.isAlpha || c == 'µ'

def digitsThen (n d : Nat) : Except (Failure Error) Nat := bounded (n * 10 + d)

def State.step (s : State) (c : Char) : Except (Failure Error) State := do
  let next := s.offset + c.utf8Size
  match s.phase with
  | .seeking since =>
    match Numeral.digit? c with
    | some d => pure ⟨some s.sum, next, .number d⟩
    | none =>
      if Text.isBlank c then pure { s with offset := next }
      else throw (.refused (.numberExpected since))
  | .number n =>
    match Numeral.digit? c with
    | some d => pure { s with offset := next, phase := .number (← digitsThen n d) }
    | none =>
      if Text.isBlank c then pure { s with offset := next }
      else if isUnitLetter c then pure { s with offset := next, phase := .unit n none [c] }
      else if c = '.' then pure { s with offset := next, phase := .fraction n ⟨0, 1⟩ s.offset }
      else throw (.refused (.invalidCharacter s.offset))
  | .fraction n f place =>
    match Numeral.digit? c with
    | some d =>
      let denominator ← digitsThen f.denominator 0
      let numerator ← digitsThen f.numerator d
      pure { s with offset := next, phase := .fraction n ⟨numerator, denominator⟩ next }
    | none =>
      if Text.isBlank c then pure { s with offset := next, phase := .fraction n f next }
      else if isUnitLetter c && f.denominator != 1 then
        pure { s with offset := next, phase := .unit n (some f) [c] }
      else throw (.refused (.invalidCharacter place))
  | .unit n f name =>
    match Numeral.digit? c with
    | some d => pure ⟨some (← addSpan s.sum n f name), next, .number d⟩
    | none =>
      if Text.isBlank c then pure ⟨some (← addSpan s.sum n f name), next, .seeking next⟩
      else if isUnitLetter c then pure { s with offset := next, phase := .unit n f (name ++ [c]) }
      else throw (.refused (.invalidCharacter s.offset))

/-- Ends the reading at the end of the text. -/
def State.finish (s : State) : Except (Failure Error) Duration :=
  match s.phase with
  | .seeking _ =>
    match s.total with
    | some total => .ok total
    | none => .error (.refused .empty)
  | .number n => addSpan s.sum n none []
  | .fraction n f place =>
    if f.denominator = 1 then .error (.refused (.invalidCharacter place))
    else addSpan s.sum n (some f) []
  | .unit n f name => addSpan s.sum n f name

def readChars (cs : List Char) : Except (Failure Error) Duration := do
  (← cs.foldlM State.step State.initial).finish

def read (text : String) : Except (Failure Error) Duration := readChars text.toList

end Checkpointing.Span
