import Checkpointing.Barrier
import Checkpointing.Json.Basic
import Checkpointing.Json.Record

/-! Barriers as JSON. -/

namespace Checkpointing.Barrier
set_option autoImplicit false

def toJson (b : Barrier) : Json :=
  .object
    [("is_savepoint", .bool b.isSavepoint), ("is_unaligned", .bool b.isUnaligned),
     ("alignment_timeout_ms",
       match b.alignmentTimeoutMs with
       | some ms => .number ms.toNat
       | none => .null)]

/-- What has been read of a barrier. A timeout may be read as null. -/
structure Draft where
  isSavepoint : Option Bool
  isUnaligned : Option Bool
  alignmentTimeoutMs : Option (Option UInt64)

/-- A timeout that is missing is null. -/
def Draft.finish (draft : Draft) : Except Json.Error Barrier := do
  let isSavepoint ← Json.required "is_savepoint" draft.isSavepoint
  let isUnaligned ← Json.required "is_unaligned" draft.isUnaligned
  return ⟨isSavepoint, isUnaligned, draft.alignmentTimeoutMs.getD none⟩

def shape : Json.Shape Draft Barrier where
  wanted := "struct CheckpointOptions"
  fields :=
    [.plain "is_savepoint" (·.isSavepoint.isSome) Json.readBool
       fun draft b => { draft with isSavepoint := some b },
     .plain "is_unaligned" (·.isUnaligned.isSome) Json.readBool
       fun draft b => { draft with isUnaligned := some b },
     .plain "alignment_timeout_ms" (·.alignmentTimeoutMs.isSome) (Json.readOptional Json.readUInt64)
       fun draft ms => { draft with alignmentTimeoutMs := some ms }]
  length := some "struct CheckpointOptions with 3 elements"
  closed := false
  start := ⟨none, none, none⟩
  finish := Draft.finish

def ofJson (text : String) : Traced Json.Error Barrier := Json.readDocument shape.read text

end Checkpointing.Barrier
