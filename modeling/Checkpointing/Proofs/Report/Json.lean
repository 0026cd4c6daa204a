import Checkpointing.Proofs.Config.Snapshot
import Checkpointing.Proofs.Json.Printed
import Checkpointing.Report

/-!
# Reports in JSON read back

A report has its members in the order of their names, and so do the settings in it, which are another
order than that of a snapshot. They decode to themselves all the same.
-/

namespace Checkpointing
set_option autoImplicit false
open Json (IsBraced IsFlag IsJson IsObject IsVariant IsWhole Spells Style chars)

namespace Json

@[simp] theorem sorted_bool (b : Bool) : (Json.bool b).sorted = .bool b := rfl

@[simp] theorem sorted_number (n : Int) : (Json.number n).sorted = .number n := rfl

@[simp] theorem sorted_string (s : String) : (Json.string s).sorted = .string s := rfl

end Json

section Settings
variable {style : Style} {depth : Nat}

theorem Duration.isWritten_sorted (hstyle : style.Spaced) (d : Duration) :
    d.IsWritten (chars style depth d.toJson.sorted) := by
  have hval : (UInt32.ofNat d.nanos).toNat = d.nanos := by
    have hnanos := d.nanos.isLt
    exact UInt32.toNat_ofNat_of_lt' (by simp [UInt32.size]; omega)
  obtain ⟨members, hperm, htext⟩ := @Json.exists_isBraced_sorted style hstyle depth
    [("secs", .number d.secs.toNat), ("nanos", .number d.nanos)] (by simp)
  refine ⟨d.secs, UInt32.ofNat d.nanos, members, ?_, ?_, htext⟩
  · rw [hval]
    simpa using hperm
  · rw [hval]
    rfl

theorem Json.isVariant_string (name : String) : IsVariant name (chars style depth (.string name)) := by
  rw [chars_string]
  exact .string (spells_flatMap name.toList)

theorem Change.isWritten_sorted (hstyle : style.Spaced) (change : Change) :
    change.IsWritten (chars style depth change.toJson.sorted) := by
  cases change with
  | mode m =>
    rw [Change.toJson, Json.sorted_string]
    exact Json.isVariant_string m.name
  | retention r =>
    rw [Change.toJson, Json.sorted_string]
    exact Json.isVariant_string r.name
  | alignmentTimeout d => exact d.isWritten_sorted hstyle
  | interval | timeout | minPause | maxConcurrent | tolerableFailures | ignoredCheckpoint =>
    simp [Change.toJson, Change.IsWritten, IsWhole]
  | failOnErrors | approximateRecovery | unaligned | forceUnaligned =>
    simp [Change.toJson, Change.IsWritten, IsFlag]

/-- Settings whose members are put in the order of their names decode to themselves. -/
theorem Config.outcome_ofJson_sorted (hstyle : style.Spaced) {c : Config} (hc : c.Coherent) :
    (ofJson (String.ofList (chars style depth c.toJson.sorted))).outcome = .ok c := by
  have hne : Setting.snapshotOrder.map (fun s => (s.member, (c.get s).toJson)) ≠ [] := by
    simp [Setting.snapshotOrder]
  obtain ⟨members, hperm, htext⟩ := Json.exists_isBraced_sorted hstyle depth hne
  rw [List.map_map] at hperm
  have hmem : ∀ m ∈ members, ∃ s : Setting,
      m = (s.member, chars style (depth + 1) (c.get s).toJson.sorted) := by
    intro m hm
    obtain ⟨s, _, rfl⟩ := List.mem_map.mp (hperm.mem_iff.mp hm)
    exact ⟨s, rfl⟩
  have hnames : (members.map Prod.fst).Perm (Setting.snapshotOrder.map Setting.member) := by
    have hmap := hperm.map Prod.fst
    rwa [List.map_map] at hmap
  have honce : ∀ s : Setting, (members.map Prod.fst).count s.member ≤ 1 := by
    intro s
    have hnodup : (Setting.snapshotOrder.map Setting.member).Nodup := by decide
    rw [hnames.count_eq]
    exact List.nodup_iff_count_le_one.mp hnodup s.member
  have hoverlays : Overlays members c := by
    constructor
    · intro s text hm
      obtain ⟨r, heq⟩ := hmem _ hm
      obtain ⟨hname, rfl⟩ := Prod.mk.inj heq
      obtain rfl := Setting.member_injective hname
      exact (c.get s).isWritten_sorted hstyle
    · intro s hs
      refine absurd (hnames.mem_iff.mpr (List.mem_map_of_mem ?_)) hs
      exact Setting.snapshotOrder_perm_all.mem_iff.mpr s.mem_all
  have hobject : IsObject members (String.ofList (chars style depth c.toJson.sorted)) := by
    refine ⟨?_, [], _, [], Json.blank_nil, htext, Json.blank_nil, by simp [toJson]⟩
    intro m hm
    obtain ⟨s, rfl⟩ := hmem m hm
    exact Json.isJson_chars hstyle _ _
  exact (hoverlays.outcome_ofJson hobject honce).mpr ⟨hc, rfl⟩

end Settings

namespace Report

/-- The members of a report on the settings of a job: its name, what the settings come to, and the settings
themselves. -/
structure Tells (name : String) (c : Config) (members : List (String × List Char)) : Prop where
  names : (members.map Prod.fst).Perm
    ["job", "checkpointing_enabled", "externalized_checkpoints_enabled",
      "effective_tolerable_failure_number", "checkpoint_config"]
  job : ∀ text, ("job", text) ∈ members →
    ∃ contents, Spells contents name.toList ∧ text = '"' :: (contents ++ ['"'])
  enabled : ∀ text, ("checkpointing_enabled", text) ∈ members → IsFlag c.isEnabled text
  externalized : ∀ text, ("externalized_checkpoints_enabled", text) ∈ members →
    IsFlag c.retention.isExternalized text
  tolerable : ∀ text, ("effective_tolerable_failure_number", text) ∈ members →
    IsWhole c.effectiveTolerableFailures.toNat text
  config : ∀ text, ("checkpoint_config", text) ∈ members →
    (Config.ofJson (String.ofList text)).outcome = .ok c

theorem exists_tells (name : String) {c : Config} (hc : c.Coherent) :
    ∃ members, IsObject members (text name c .json) ∧ Tells name c members := by
  obtain ⟨members, hperm, htext⟩ := @Json.exists_isBraced_sorted .indented
    Json.Style.spaced_indented 0
    [("job", .string name), ("checkpointing_enabled", .bool c.isEnabled),
     ("externalized_checkpoints_enabled", .bool c.retention.isExternalized),
     ("effective_tolerable_failure_number", .number c.effectiveTolerableFailures.toNat),
     ("checkpoint_config", c.toJson)] (by simp)
  have hmem := fun m => (hperm.mem_iff (a := m)).mp
  simp only [List.map_cons, List.map_nil, List.mem_cons, List.not_mem_nil, or_false] at hmem
  refine ⟨members, ⟨?_, [], _, ['\n'], Json.blank_nil, htext, ?_, ?_⟩, ?_⟩
  · intro m hm
    rcases hmem m hm with rfl | rfl | rfl | rfl | rfl <;>
      exact Json.isJson_chars Json.Style.spaced_indented _ _
  · intro c hc
    exact (List.mem_singleton.mp hc).symm ▸ by decide
  · simp [text, json, Json.indented]
  · constructor
    · simpa using hperm.map Prod.fst
    · intro text hm
      obtain rfl : text = Json.stringChars name := by simpa using hmem _ hm
      exact ⟨_, Json.spells_flatMap name.toList, rfl⟩
    · intro text hm
      simpa [IsFlag] using hmem _ hm
    · intro text hm
      simpa [IsFlag] using hmem _ hm
    · intro text hm
      simpa [IsWhole] using hmem _ hm
    · intro text hm
      obtain rfl : text = chars .indented 1 c.toJson.sorted := by simpa using hmem _ hm
      exact Config.outcome_ofJson_sorted Json.Style.spaced_indented hc

end Report
end Checkpointing
