import Checkpointing.Config.Update
import Checkpointing.Duration.Json

/-!
# Snapshots

A snapshot is the JSON form of settings: an object with a member for each. Members that are missing
have their default values. A snapshot is accepted by making its values one after the other the changes
of default settings, so one that is not coherent is refused.
-/

namespace Checkpointing
set_option autoImplicit false

namespace Setting

/-- The settings in the order in which a snapshot has them. -/
def snapshotOrder : List Setting :=
  [.interval, .mode, .timeout, .minPause, .maxConcurrent, .failOnErrors, .tolerableFailures,
   .retention, .unaligned, .forceUnaligned, .alignmentTimeout, .approximateRecovery,
   .ignoredCheckpoint]

def member : Setting → String
  | .interval => "interval_ms"
  | .mode => "mode"
  | .timeout => "timeout_ms"
  | .minPause => "min_pause_ms"
  | .maxConcurrent => "max_concurrent_checkpoints"
  | .failOnErrors => "fail_on_checkpointing_errors"
  | .tolerableFailures => "tolerable_failure_number"
  | .retention => "externalized_checkpoint_retention"
  | .unaligned => "unaligned_checkpoints"
  | .forceUnaligned => "force_unaligned_checkpoints"
  | .alignmentTimeout => "alignment_timeout"
  | .approximateRecovery => "approximate_local_recovery"
  | .ignoredCheckpoint => "checkpoint_id_of_ignored_in_flight_data"

theorem snapshotOrder_perm_all : snapshotOrder.Perm all := by decide

theorem find?_member (s : Setting) :
    snapshotOrder.find? (fun t => t.member == s.member) = some s := by
  cases s <;> decide

theorem member_injective {s t : Setting} (h : s.member = t.member) : s = t := by
  have := find?_member s
  rw [h, find?_member t] at this
  exact (Option.some.inj this).symm

end Setting

namespace Change

def toJson : Change → Json
  | .interval ms => .number ms.toInt
  | .mode m => .string m.name
  | .timeout ms => .number ms.toNat
  | .minPause ms => .number ms.toNat
  | .maxConcurrent n => .number n.toNat
  | .failOnErrors on => .bool on
  | .tolerableFailures n => .number n.toNat
  | .retention r => .string r.name
  | .approximateRecovery on => .bool on
  | .unaligned on => .bool on
  | .forceUnaligned on => .bool on
  | .alignmentTimeout d => d.toJson
  | .ignoredCheckpoint id => .number id.toInt

def lift {α : Type} (make : α → Change) (x : Except Json.Error (α × List Char)) :
    Traced Json.Error (Change × List Char) :=
  .ofExcept (x.map fun (a, rest) => (make a, rest))

/-- Reads a value for a setting. -/
def readJson : Setting → Json.Reader Change
  | .interval, cs => lift .interval (Json.readInt64 cs)
  | .mode, cs => lift .mode (Json.readVariant Mode.naming.ofName? Mode.naming.names cs)
  | .timeout, cs => lift .timeout (Json.readUInt64 cs)
  | .minPause, cs => lift .minPause (Json.readUInt64 cs)
  | .maxConcurrent, cs => lift .maxConcurrent (Json.readUInt32 cs)
  | .failOnErrors, cs => lift .failOnErrors (Json.readBool cs)
  | .tolerableFailures, cs => lift .tolerableFailures (Json.readUInt32 cs)
  | .retention, cs =>
    lift .retention (Json.readVariant Retention.naming.ofName? Retention.naming.names cs)
  | .approximateRecovery, cs => lift .approximateRecovery (Json.readBool cs)
  | .unaligned, cs => lift .unaligned (Json.readBool cs)
  | .forceUnaligned, cs => lift .forceUnaligned (Json.readBool cs)
  | .alignmentTimeout, cs => do
    let (d, rest) ← Duration.readJson cs
    return (.alignmentTimeout d, rest)
  | .ignoredCheckpoint, cs => lift .ignoredCheckpoint (Json.readInt64 cs)

end Change

/-- The values that a snapshot gives, the last one first. -/
abbrev Snapshot := List Change

namespace Snapshot

/-- The default settings with the values of a snapshot in their places. -/
def overlay (snapshot : Snapshot) : Config := snapshot.foldr (fun change c => c.set change) .default

def field (s : Setting) : Json.Field Snapshot where
  name := s.member
  isIn snapshot := snapshot.any (·.setting == s)
  read snapshot cs := do
    let (change, rest) ← Change.readJson s cs
    return (change :: snapshot, rest)

/-- Members of other names are passed over. -/
def shape : Json.Shape Snapshot Snapshot where
  wanted := "struct RawCheckpointConfig"
  fields := Setting.snapshotOrder.map field
  length := none
  closed := false
  start := []
  finish := .ok

end Snapshot

namespace Config

/-- The settings in the order in which a snapshot's values are checked. The interval comes first, but
not that of disabled checkpoints, which is the default and no change. -/
def acceptanceOrder (c : Config) : List Setting :=
  (if c.interval = disabledInterval then [] else [.interval]) ++
    [.mode, .timeout, .maxConcurrent, .approximateRecovery, .unaligned, .ignoredCheckpoint,
     .minPause, .failOnErrors, .tolerableFailures, .retention, .forceUnaligned, .alignmentTimeout]

/-- Accepts values by changing default settings to them one by one. -/
def accept (values : Config) : Traced Rejection Config :=
  values.acceptanceOrder.foldlM (fun c s => c.update (values.get s)) default

def toJson (c : Config) : Json :=
  .object (Setting.snapshotOrder.map fun s => (s.member, (c.get s).toJson))

/-- Reads settings. The snapshot is accepted when its last bracket has been read. -/
def readJson : Json.Reader Config := fun cs => do
  let (snapshot, rest) ← Snapshot.shape.read cs
  let c ← snapshot.overlay.accept.mapError fun cause => .data (.refused cause)
  return (c, rest)

def ofJson (text : String) : Traced Json.Error Config := Json.readDocument readJson text

end Config
end Checkpointing
