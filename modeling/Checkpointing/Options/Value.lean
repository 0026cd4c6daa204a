import Checkpointing.Config.Update
import Checkpointing.Duration.Text

/-! The text of one option: how a change is read from it, and how a change is written. Texts are read
without the blanks around them. -/

namespace Checkpointing
set_option autoImplicit false

namespace Options

/-- `true` or `false`, in any case of letters. -/
def readFlag (s : Setting) (text : String) : Except Rejection Bool :=
  match String.ofList (text.toList.map Char.toLower) with
  | "true" => .ok true
  | "false" => .ok false
  | _ => .error (.invalidFlag s text)

/-- A label for one of the values that are read by their names. -/
def readLabel {α : Type} (naming : Naming α) (unknown : String → Rejection) (text : String) :
    Except Rejection α :=
  match naming.ofLabel? text with
  | some a => .ok a
  | none => .error (unknown text)

def readMode : String → Except Rejection Mode := readLabel Mode.naming .unknownMode

def readRetention : String → Except Rejection Retention :=
  readLabel Retention.naming .unknownRetention

/-- A numeral counts milliseconds; all other text is span text. -/
def readDuration (s : Setting) (text : String) : Except (Failure Rejection) Duration :=
  match Numeral.uint64 text with
  | .ok ms => .ok (.ofMillis ms)
  | .error _ => (Span.read text).mapError (Failure.map (.invalidDuration s text))

/-- A duration that is a whole number of milliseconds. -/
def readMillis (s : Setting) (text : String) : Except (Failure Rejection) UInt64 := do
  let d ← readDuration s text
  if ¬ d.IsWholeMillis then
    throw (.refused (.notWholeMillis s text))
  if d.millis < 0x10000000000000000 then
    pure (UInt64.ofNat d.millis)
  else
    throw (.refused (.durationTooLarge s))

def readInterval (text : String) : Except (Failure Rejection) Int64 := do
  let ms ← readMillis .interval text
  if ms.toNat < 0x8000000000000000 then
    pure (Int64.ofNat ms.toNat)
  else
    throw (.refused .intervalTooLarge)

/-- A number as one of the bounded readings of `Numeral` gives it. -/
def readNumber {α : Type} (s : Setting) (read : String → Except Numeral.Error α) (text : String) :
    Except (Failure Rejection) α :=
  (read text).mapError fun cause => .refused (.invalidNumber s text cause)

def refusing {α : Type} (x : Except Rejection α) : Except (Failure Rejection) α :=
  x.mapError .refused

end Options

namespace Change
open Options

/-- The change of a setting that a text without blanks around it stands for. -/
def read (s : Setting) (text : String) : Except (Failure Rejection) Change :=
  match s with
  | .interval => return .interval (← readInterval text)
  | .mode => return .mode (← refusing (readMode text))
  | .timeout => return .timeout (← readMillis s text)
  | .minPause => return .minPause (← readMillis s text)
  | .maxConcurrent => return .maxConcurrent (← readNumber s Numeral.uint32 text)
  | .failOnErrors => return .failOnErrors (← refusing (readFlag s text))
  | .tolerableFailures => return .tolerableFailures (← readNumber s Numeral.uint32 text)
  | .retention => return .retention (← refusing (readRetention text))
  | .approximateRecovery => return .approximateRecovery (← refusing (readFlag s text))
  | .unaligned => return .unaligned (← refusing (readFlag s text))
  | .forceUnaligned => return .forceUnaligned (← refusing (readFlag s text))
  | .alignmentTimeout => return .alignmentTimeout (← readDuration s text)
  | .ignoredCheckpoint => return .ignoredCheckpoint (← readNumber s Numeral.int64 text)

/-- The text of a change's value. -/
def text : Change → String
  | .interval ms => toString ms
  | .mode m => m.name
  | .timeout ms => toString ms
  | .minPause ms => toString ms
  | .maxConcurrent n => toString n
  | .failOnErrors on => toString on
  | .tolerableFailures n => toString n
  | .retention r => r.name
  | .approximateRecovery on => toString on
  | .unaligned on => toString on
  | .forceUnaligned on => toString on
  | .alignmentTimeout d => d.text
  | .ignoredCheckpoint id => toString id

end Change
end Checkpointing
