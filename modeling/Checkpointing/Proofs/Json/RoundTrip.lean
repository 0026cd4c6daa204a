import Checkpointing.Barrier.Json
import Checkpointing.Job.Json
import Checkpointing.Proofs.Config.Approach
import Checkpointing.Proofs.Json.Object

/-!
# What is written is read back

Durations, settings, jobs and barriers are written as objects that their own shapes take member by
member. Settings come back from their snapshot because coherent settings are accepted as they are.
-/

namespace Checkpointing
set_option autoImplicit false
open Json (Reads Style chars)

namespace Json

theorem outcome_readDocument {α : Type} {read : Reader α} {text : List Char} {a : α}
    (h : Reads (fun cs => (read cs).outcome) text a) :
    (readDocument read (String.ofList text)).outcome = .ok a := by
  have hread := h [] [] blank_nil nofun
  rw [List.nil_append, List.append_nil] at hread
  rw [readDocument, String.toList_ofList]
  exact (Traced.outcome_bind_of_ok hread _).trans rfl

theorem Field.reads_plain {δ α : Type} {name : String} {isIn : δ → Bool}
    {read : List Char → Except Error (α × List Char)} {put : δ → α → δ} {draft : δ}
    {text : List Char} {a : α} (h : Reads read text a) :
    Reads (fun cs => ((Field.plain name isIn read put).read draft cs).outcome) text (put draft a) :=
  h.map (put draft)

end Json

variable {style : Style} {depth : Nat}

theorem Duration.reads_toJson (hstyle : style.Spaced) (d : Duration) :
    Reads (fun cs => (Duration.readJson cs).outcome) (chars style depth d.toJson) d := by
  have hnanos := d.nanos.isLt
  have hval : (UInt32.ofNat d.nanos).toNat = d.nanos :=
    UInt32.toNat_ofNat_of_lt' (by simp [UInt32.size]; omega)
  have hread := @Json.reads_uint32 style (depth + 1) (UInt32.ofNat d.nanos)
  rw [hval] at hread
  refine Json.Shape.Takes.read (d := ⟨some d.secs, some (UInt32.ofNat d.nanos)⟩) hstyle (by simp)
    ?_ ?_
  · exact .cons rfl rfl (Json.Field.reads_plain (Json.reads_uint64 d.secs))
      (.cons rfl rfl (Json.Field.reads_plain hread) (.nil _))
  · have hparts : Duration.ofParts? d.secs.toNat d.nanos = some d := d.ofNanos?_totalNanos
    change Draft.finish _ = _
    simp only [Draft.finish, Json.required]
    rw [Outcome.ok_bind, Outcome.ok_bind, hval, hparts]
    rfl

theorem Change.reads_toJson (hstyle : style.Spaced) (change : Change) :
    Reads (fun cs => (Change.readJson change.setting cs).outcome)
      (chars style depth change.toJson) change := by
  cases change with
  | interval ms =>
    exact (Json.reads_int64 ms).map Change.interval
  | mode m =>
    exact (Json.reads_variant (Mode.naming.ofName?_name m)).map Change.mode
  | timeout ms =>
    exact (Json.reads_uint64 ms).map Change.timeout
  | minPause ms =>
    exact (Json.reads_uint64 ms).map Change.minPause
  | maxConcurrent n =>
    exact (Json.reads_uint32 n).map Change.maxConcurrent
  | failOnErrors on =>
    exact (Json.reads_bool on).map Change.failOnErrors
  | tolerableFailures n =>
    exact (Json.reads_uint32 n).map Change.tolerableFailures
  | retention r =>
    exact (Json.reads_variant (Retention.naming.ofName?_name r)).map Change.retention
  | approximateRecovery on =>
    exact (Json.reads_bool on).map Change.approximateRecovery
  | unaligned on =>
    exact (Json.reads_bool on).map Change.unaligned
  | forceUnaligned on =>
    exact (Json.reads_bool on).map Change.forceUnaligned
  | alignmentTimeout d =>
    intro blanks rest hblanks hrest
    have hread := @Duration.reads_toJson style depth hstyle d blanks rest hblanks hrest
    exact (Traced.outcome_bind_of_ok hread _).trans rfl
  | ignoredCheckpoint id =>
    exact (Json.reads_int64 id).map Change.ignoredCheckpoint

namespace Snapshot

theorem find?_field (s : Setting) :
    shape.fields.find? (·.name = s.member) = some (field s) := by
  have h := Setting.find?_member s
  change (Setting.snapshotOrder.map field).find? _ = _
  rw [List.find?_map]
  exact congrArg (Option.map field) h

/-- A snapshot takes the values of settings in any order without repetition. -/
theorem takes_values (hstyle : style.Spaced) (c : Config) {order : List Setting}
    {snapshot : Snapshot} (hnodup : order.Nodup)
    (hnew : ∀ s ∈ order, (field s).isIn snapshot = false) :
    shape.Takes style depth snapshot (order.map fun s => (s.member, (c.get s).toJson))
      ((order.map c.get).reverse ++ snapshot) := by
  induction order generalizing snapshot with
  | nil => exact .nil snapshot
  | cons s order ih =>
    obtain ⟨hs, hnodup⟩ := List.nodup_cons.mp hnodup
    have htail := @ih (c.get s :: snapshot) hnodup ?_
    · rw [List.map_cons, List.map_cons, List.reverse_cons, List.append_assoc, List.singleton_append]
      refine .cons (find?_field s) (hnew s List.mem_cons_self) ?_ htail
      intro blanks rest hblanks hrest
      have hread := @Change.reads_toJson style depth hstyle (c.get s) blanks rest hblanks hrest
      rw [Config.setting_get] at hread
      exact (Traced.outcome_bind_of_ok hread _).trans rfl
    · intro r hr
      have hne : s ≠ r := fun h => hs (h ▸ hr)
      have hold := hnew r (List.mem_cons_of_mem s hr)
      change (c.get s :: snapshot).any (·.setting == r) = false
      rw [List.any_cons, Config.setting_get, beq_eq_false_iff_ne.mpr hne, Bool.false_or]
      exact hold

end Snapshot

namespace Config

theorem overlay_values (c : Config) :
    Snapshot.overlay ((Setting.snapshotOrder.map c.get).reverse ++ []) = c := by
  rw [Snapshot.overlay, List.append_nil, List.foldr_reverse]
  apply ext_get
  intro s
  rw [get_foldl_set c.get c.setting_get, if_pos (Setting.snapshotOrder_perm_all.mem_iff.mpr s.mem_all)]

theorem reads_toJson (hstyle : style.Spaced) {c : Config} (hc : c.Coherent) :
    Reads (fun cs => (readJson cs).outcome) (chars style depth c.toJson) c := by
  have hnodup := Setting.snapshotOrder_perm_all.nodup_iff.mpr Setting.nodup_all
  have htakes := @Snapshot.takes_values style (depth + 1) hstyle c Setting.snapshotOrder [] hnodup
    (fun _ _ => rfl)
  have hsnapshot := htakes.read hstyle (by simp [Setting.snapshotOrder]) rfl
  intro blanks rest hblanks hrest
  apply (Traced.outcome_bind_of_ok (hsnapshot blanks rest hblanks hrest) _).trans
  have haccept := hc.outcome_accept
  dsimp only
  rw [overlay_values]
  exact (Traced.outcome_bind_of_ok (Traced.outcome_mapError_eq_ok_iff.mpr haccept) _).trans rfl

end Config

theorem Job.reads_toJson (hstyle : style.Spaced) {job : Job} (hc : job.config.Coherent) :
    Reads (fun cs => (Job.shape.read cs).outcome) (chars style depth job.toJson) job := by
  refine Json.Shape.Takes.read (d := ⟨some job.name, some job.config⟩) hstyle (by simp) ?_ rfl
  apply Json.Shape.Takes.cons rfl rfl (Json.Field.reads_plain (Json.reads_string _ job.name))
  refine .cons rfl rfl ?_ (.nil _)
  intro blanks rest hblanks hrest
  have hread := @Config.reads_toJson style (depth + 1) hstyle job.config hc blanks rest hblanks hrest
  exact (Traced.outcome_bind_of_ok hread _).trans rfl

theorem Barrier.reads_timeout (ms : Option UInt64) :
    Reads (Json.readOptional Json.readUInt64) (chars style depth (match ms with
      | some ms => .number ms.toNat
      | none => .null)) ms := by
  cases ms with
  | none => exact Json.reads_null _
  | some ms =>
    obtain ⟨c, cs, htext, hstarts, hspace⟩ := Json.Number.exists_toString_cons ms.toNat
    refine Json.reads_some (Json.chars_number _ ▸ htext) ?_ hspace (Json.reads_uint64 ms)
    rintro rfl
    exact absurd hstarts (by decide)

theorem Barrier.reads_toJson (hstyle : style.Spaced) (b : Barrier) :
    Reads (fun cs => (Barrier.shape.read cs).outcome) (chars style depth b.toJson) b := by
  refine Json.Shape.Takes.read
    (d := ⟨some b.isSavepoint, some b.isUnaligned, some b.alignmentTimeoutMs⟩) hstyle (by simp) ?_ rfl
  apply Json.Shape.Takes.cons rfl rfl (Json.Field.reads_plain (Json.reads_bool b.isSavepoint))
  apply Json.Shape.Takes.cons rfl rfl (Json.Field.reads_plain (Json.reads_bool b.isUnaligned))
  exact .cons rfl rfl (Json.Field.reads_plain (reads_timeout b.alignmentTimeoutMs)) (.nil _)

/-- What is written as JSON reads back as itself. -/
theorem Json.written_reads_back :
    (∀ c : Config, c.Coherent → (Config.ofJson c.toJson.compact).outcome = .ok c) ∧
      (∀ job : Job, job.config.Coherent → (Job.ofJson job.text).outcome = .ok job) ∧
      ∀ b : Barrier, (Barrier.ofJson b.toJson.compact).outcome = .ok b := by
  refine ⟨fun c hc => ?_, fun job hc => ?_, fun b => ?_⟩
  · exact outcome_readDocument (Config.reads_toJson Style.spaced_compact hc)
  · exact outcome_readDocument (Job.reads_toJson Style.spaced_indented hc)
  · exact outcome_readDocument (Barrier.reads_toJson Style.spaced_compact b)

theorem Json.written_reads_back_escaped :
    Config.default.Coherent ∧
      (Job.ofJson (Job.text ⟨"\"\\\x00 ü\n", .default⟩)).outcome = .ok ⟨"\"\\\x00 ü\n", .default⟩ :=
  ⟨by decide, written_reads_back.2.1 _ (by decide)⟩

end Checkpointing
