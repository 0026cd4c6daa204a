import Checkpointing.Duration.Basic

/-! The span text of a duration: its years, months, days, hours, minutes, seconds, milliseconds,
microseconds and nanoseconds, those that are not zero, with a blank between them. -/

namespace Checkpointing.Duration
set_option autoImplicit false

/-- A count with its unit. The units of a day and more take a plural. -/
structure Part where
  count : Nat
  unit : String
  plural : Bool
deriving DecidableEq, Repr

def Part.text (p : Part) : String :=
  toString p.count ++ p.unit ++ if p.plural && p.count > 1 then "s" else ""

def parts (d : Duration) : List Part :=
  let secs := d.secs.toNat
  let inYear := secs % 31557600
  let inMonth := inYear % 2630016
  let inDay := inMonth % 86400
  [⟨secs / 31557600, "year", true⟩, ⟨inYear / 2630016, "month", true⟩,
   ⟨inMonth / 86400, "day", true⟩, ⟨inDay / 3600, "h", false⟩, ⟨inDay % 3600 / 60, "m", false⟩,
   ⟨inDay % 60, "s", false⟩, ⟨d.nanos / 1000000, "ms", false⟩,
   ⟨d.nanos / 1000 % 1000, "us", false⟩, ⟨d.nanos % 1000, "ns", false⟩]

/-- No duration at all is `0s`. -/
def text (d : Duration) : String :=
  match d.parts.filter (·.count != 0) with
  | [] => "0s"
  | parts => " ".intercalate (parts.map Part.text)

end Checkpointing.Duration
