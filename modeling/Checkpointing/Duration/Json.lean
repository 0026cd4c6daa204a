import Checkpointing.Json.Basic
import Checkpointing.Json.Record

/-! Durations as JSON: an object of seconds and nanoseconds. -/

namespace Checkpointing.Duration
set_option autoImplicit false

def toJson (d : Duration) : Json :=
  .object [("secs", .number d.secs.toNat), ("nanos", .number d.nanos)]

structure Draft where
  secs : Option UInt64
  nanos : Option UInt32

/-- Nanoseconds that make whole seconds are carried. -/
def Draft.finish (draft : Draft) : Except Json.Error Duration := do
  let secs ← Json.required "secs" draft.secs
  let nanos ← Json.required "nanos" draft.nanos
  match Duration.ofParts? secs.toNat nanos.toNat with
  | some d => pure d
  | none => throw (.data .durationOverflow)

def shape : Json.Shape Draft Duration where
  wanted := "struct Duration"
  fields :=
    [.plain "secs" (·.secs.isSome) Json.readUInt64 fun draft n => { draft with secs := some n },
     .plain "nanos" (·.nanos.isSome) Json.readUInt32 fun draft n => { draft with nanos := some n }]
  length := some "struct Duration"
  closed := true
  start := ⟨none, none⟩
  finish := Draft.finish

def readJson : Json.Reader Duration := shape.read

end Checkpointing.Duration
