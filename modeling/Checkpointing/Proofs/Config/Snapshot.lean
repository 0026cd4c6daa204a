import Checkpointing.Proofs.Config.Persistence
import Checkpointing.Proofs.Json.Consumption
import Checkpointing.Proofs.Json.RoundTrip

/-!
# Snapshots in any spelling

A snapshot may have its members in any order and any spelling, among members of other names. It stands
for the default settings with the values of its members in their places, and it is accepted as exactly
these settings if they are coherent.
-/

namespace Checkpointing
set_option autoImplicit false
open Json (Blank Consumes IsBraced IsJson IsVariant Reads Stops)

/-! ## Values -/

namespace Json

def IsWhole (z : Int) (text : List Char) : Prop := text = (toString z).toList

def IsFlag (on : Bool) (text : List Char) : Prop := text = (toString on).toList

variable {α : Type} {read : List Char → Except Error (α × List Char)} {text : List Char} {a : α}

theorem IsWhole.reads {z : Int} (h : IsWhole z text)
    (hread : Reads read (chars .compact 0 (.number z)) a) : Reads read text a := by
  rwa [chars_number, ← h] at hread

theorem IsFlag.reads {on : Bool} (h : IsFlag on text) : Reads readBool text on := by
  have hread := @reads_bool .compact 0 on
  rwa [chars_bool, ← h] at hread

end Json

/-- The texts of a duration: an object of seconds and nanoseconds, and these may make whole seconds. -/
def Duration.IsWritten (d : Duration) (text : List Char) : Prop :=
  ∃ (secs : UInt64) (nanos : UInt32) (members : List (String × List Char)),
    members.Perm [("secs", (toString (secs.toNat : Int)).toList),
      ("nanos", (toString (nanos.toNat : Int)).toList)] ∧
    d.totalNanos = secs.toNat * 1000000000 + nanos.toNat ∧ IsBraced members text

def Change.IsWritten : Change → List Char → Prop
  | .interval ms => Json.IsWhole ms.toInt
  | .mode m => IsVariant m.name
  | .timeout ms => Json.IsWhole ms.toNat
  | .minPause ms => Json.IsWhole ms.toNat
  | .maxConcurrent n => Json.IsWhole n.toNat
  | .failOnErrors on => Json.IsFlag on
  | .tolerableFailures n => Json.IsWhole n.toNat
  | .retention r => IsVariant r.name
  | .approximateRecovery on => Json.IsFlag on
  | .unaligned on => Json.IsFlag on
  | .forceUnaligned on => Json.IsFlag on
  | .alignmentTimeout d => d.IsWritten
  | .ignoredCheckpoint id => Json.IsWhole id.toInt

namespace Duration
variable {d : Duration} {text : List Char} {secs : UInt64} {nanos : UInt32}

theorem finish_parts (h : d.totalNanos = secs.toNat * 1000000000 + nanos.toNat) :
    Draft.finish ⟨some secs, some nanos⟩ = .ok d := by
  have hparts : ofParts? secs.toNat nanos.toNat = some d := by
    rw [ofParts?, ← h]
    exact d.ofNanos?_totalNanos
  simp only [Draft.finish, Json.required]
  rw [Outcome.ok_bind, Outcome.ok_bind, hparts]
  rfl

theorem collects_parts {members : List (String × List Char)}
    (h : members.Perm [("secs", (toString (secs.toNat : Int)).toList),
      ("nanos", (toString (nanos.toNat : Int)).toList)]) :
    shape.Collects shape.start members ⟨some secs, some nanos⟩ := by
  have hsecs := Json.IsWhole.reads rfl (Json.reads_uint64 secs)
  have hnanos := Json.IsWhole.reads rfl (Json.reads_uint32 nanos)
  rcases List.perm_pair.mp h with rfl | rfl
  · exact .known rfl rfl (Json.Field.reads_plain hsecs)
      (.known rfl rfl (Json.Field.reads_plain hnanos) (.nil _))
  · exact .known rfl rfl (Json.Field.reads_plain hnanos)
      (.known rfl rfl (Json.Field.reads_plain hsecs) (.nil _))

theorem IsWritten.reads (h : d.IsWritten text) :
    Reads (fun cs => (Duration.readJson cs).outcome) text d := by
  obtain ⟨secs, nanos, members, hperm, htotal, htext⟩ := h
  exact (collects_parts hperm).read (finish_parts htotal) htext

end Duration

namespace Change
variable {change : Change} {text : List Char}

theorem IsWritten.reads (h : change.IsWritten text) :
    Reads (fun cs => (Change.readJson change.setting cs).outcome) text change := by
  cases change with
  | interval ms => exact (Json.IsWhole.reads h (Json.reads_int64 ms)).map Change.interval
  | mode m => exact (IsVariant.reads h (Mode.naming.ofName?_name m)).map Change.mode
  | timeout ms => exact (Json.IsWhole.reads h (Json.reads_uint64 ms)).map Change.timeout
  | minPause ms => exact (Json.IsWhole.reads h (Json.reads_uint64 ms)).map Change.minPause
  | maxConcurrent n => exact (Json.IsWhole.reads h (Json.reads_uint32 n)).map Change.maxConcurrent
  | failOnErrors on => exact (Json.IsFlag.reads h).map Change.failOnErrors
  | tolerableFailures n =>
    exact (Json.IsWhole.reads h (Json.reads_uint32 n)).map Change.tolerableFailures
  | retention r => exact (IsVariant.reads h (Retention.naming.ofName?_name r)).map Change.retention
  | approximateRecovery on => exact (Json.IsFlag.reads h).map Change.approximateRecovery
  | unaligned on => exact (Json.IsFlag.reads h).map Change.unaligned
  | forceUnaligned on => exact (Json.IsFlag.reads h).map Change.forceUnaligned
  | alignmentTimeout d =>
    intro blanks rest hblanks hrest
    exact (Traced.outcome_bind_of_ok (Duration.IsWritten.reads h blanks rest hblanks hrest) _).trans rfl
  | ignoredCheckpoint id => exact (Json.IsWhole.reads h (Json.reads_int64 id)).map Change.ignoredCheckpoint

theorem IsWritten.unique {other : Change} (h : change.IsWritten text) (h' : other.IsWritten text)
    (hsetting : change.setting = other.setting) : change = other := by
  have hread := h.reads [] [] Json.blank_nil nofun
  have hread' := h'.reads [] [] Json.blank_nil nofun
  rw [← hsetting, hread] at hread'
  exact (Prod.mk.inj (Except.ok.inj hread')).1

/-! ## Reading in step -/

theorem consumes_duration : Consumes fun cs => (Duration.readJson cs).outcome := by
  have hshape : Duration.shape.Consumes := by
    intro field hfield draft
    simp only [Duration.shape, List.mem_cons, List.not_mem_nil, or_false] at hfield
    rcases hfield with rfl | rfl
    · exact Json.consumes_uint64.plain _ _ _ draft
    · exact Json.consumes_uint32.plain _ _ _ draft
  exact hshape.read rfl

theorem consumes_readJson (s : Setting) : Consumes fun cs => (Change.readJson s cs).outcome := by
  cases s with
  | interval => exact Json.consumes_int64.map Change.interval
  | mode => exact (Json.consumes_variant _ _).map Change.mode
  | timeout => exact Json.consumes_uint64.map Change.timeout
  | minPause => exact Json.consumes_uint64.map Change.minPause
  | maxConcurrent => exact Json.consumes_uint32.map Change.maxConcurrent
  | failOnErrors => exact Json.consumes_bool.map Change.failOnErrors
  | tolerableFailures => exact Json.consumes_uint32.map Change.tolerableFailures
  | retention => exact (Json.consumes_variant _ _).map Change.retention
  | approximateRecovery => exact Json.consumes_bool.map Change.approximateRecovery
  | unaligned => exact Json.consumes_bool.map Change.unaligned
  | forceUnaligned => exact Json.consumes_bool.map Change.forceUnaligned
  | alignmentTimeout =>
    intro cs change rest h
    obtain ⟨⟨d, rest'⟩, hread, h⟩ := Traced.outcome_bind_eq_ok_iff.mp h
    obtain ⟨_, rfl⟩ := Prod.mk.inj (Except.ok.inj h)
    exact consumes_duration _ _ _ hread
  | ignoredCheckpoint => exact Json.consumes_int64.map Change.ignoredCheckpoint

theorem exists_of_lift {α : Type} {make : α → Change} {x : Except Json.Error (α × List Char)}
    {change : Change} {rest : List Char} (h : (lift make x).outcome = .ok (change, rest)) :
    ∃ a, change = make a := by
  obtain ⟨⟨a, _⟩, _, heq⟩ := Outcome.map_eq_ok_iff.mp h
  exact ⟨a, (Prod.mk.inj heq).1.symm⟩

theorem setting_of_readJson {s : Setting} {cs rest : List Char} {change : Change}
    (h : (Change.readJson s cs).outcome = .ok (change, rest)) : change.setting = s := by
  cases s with
  | alignmentTimeout =>
    obtain ⟨⟨d, rest'⟩, _, h⟩ := Traced.outcome_bind_eq_ok_iff.mp h
    obtain ⟨rfl, _⟩ := Prod.mk.inj (Except.ok.inj h)
    rfl
  | _ =>
    obtain ⟨a, rfl⟩ := exists_of_lift h
    rfl

end Change

namespace Snapshot
variable {snapshot : Snapshot} {s : Setting}

theorem exists_of_mem_fields {f : Json.Field Snapshot} (h : f ∈ shape.fields) : ∃ s, f = field s := by
  obtain ⟨s, _, rfl⟩ := List.mem_map.mp h
  exact ⟨s, rfl⟩

theorem exists_of_read {d : Snapshot} {cs rest : List Char}
    (h : ((field s).read snapshot cs).outcome = .ok (d, rest)) :
    ∃ change, (Change.readJson s cs).outcome = .ok (change, rest) ∧ d = change :: snapshot := by
  obtain ⟨⟨change, rest'⟩, hread, h⟩ := Traced.outcome_bind_eq_ok_iff.mp h
  obtain ⟨rfl, rfl⟩ := Prod.mk.inj (Except.ok.inj h)
  exact ⟨change, hread, rfl⟩

theorem consumes_shape : shape.Consumes := by
  intro f hf snapshot cs d rest h
  obtain ⟨s, rfl⟩ := exists_of_mem_fields hf
  obtain ⟨change, hread, _⟩ := exists_of_read h
  exact Change.consumes_readJson s cs change rest hread

theorem marks_shape : shape.Marks where
  read := by
    intro f hf snapshot cs d rest h
    obtain ⟨s, rfl⟩ := exists_of_mem_fields hf
    obtain ⟨change, hread, rfl⟩ := exists_of_read h
    simp [field, Change.setting_of_readJson hread]
  keeps := by
    intro f hf other hother snapshot cs d rest h hin
    obtain ⟨s, rfl⟩ := exists_of_mem_fields hf
    obtain ⟨r, rfl⟩ := exists_of_mem_fields hother
    obtain ⟨change, _, rfl⟩ := exists_of_read h
    exact Bool.or_eq_true_iff.mpr (Or.inr hin)

end Snapshot

def Setting.ofMember? (name : String) : Option Setting := snapshotOrder.find? (·.member == name)

theorem Setting.ofMember?_eq_some_iff {name : String} {s : Setting} :
    ofMember? name = some s ↔ name = s.member := by
  constructor
  · intro h
    have hname := List.find?_some (p := fun s : Setting => s.member == name) h
    exact (beq_iff_eq.mp hname).symm
  · rintro rfl
    exact find?_member s

namespace Snapshot
variable {snapshot : Snapshot} {members : List (String × List Char)} {t : Config}

theorem find?_fields (name : String) :
    shape.fields.find? (·.name = name) = (Setting.ofMember? name).map field := by
  change (Setting.snapshotOrder.map field).find? _ = _
  rw [List.find?_map]
  rfl

def settings (members : List (String × List Char)) : List Setting :=
  members.filterMap fun m => Setting.ofMember? m.1

theorem mem_settings_iff {s : Setting} : s ∈ settings members ↔ s.member ∈ members.map Prod.fst := by
  simp only [settings, List.mem_filterMap, Setting.ofMember?_eq_some_iff, List.mem_map]

/-- Members are collected one after the other, the last one first, without those that have no setting. -/
theorem collects_settings (hvalues : ∀ m ∈ members, IsJson m.2)
    (hgiven : ∀ s text, (s.member, text) ∈ members → (t.get s).IsWritten text)
    (honce : ∀ s : Setting, (members.map Prod.fst).count s.member ≤ 1)
    (hnew : ∀ s ∈ settings members, (field s).isIn snapshot = false) :
    shape.Collects snapshot members (((settings members).map t.get).reverse ++ snapshot) := by
  induction members generalizing snapshot with
  | nil => exact .nil snapshot
  | cons m members ih =>
    obtain ⟨name, text⟩ := m
    have hmembers := fun {snapshot} => @ih snapshot
      (fun m hm => hvalues m (List.mem_cons_of_mem _ hm))
      (fun s text hm => hgiven s text (List.mem_cons_of_mem _ hm))
      (fun s => List.count_le_count_cons.trans (honce s))
    cases hname : Setting.ofMember? name with
    | none =>
      have hother : shape.fields.find? (·.name = name) = none := by rw [find?_fields, hname]; rfl
      have hsettings : settings ((name, text) :: members) = settings members := by
        simp [settings, hname]
      rw [hsettings] at hnew ⊢
      exact .other hother rfl (hvalues _ List.mem_cons_self) (hmembers hnew)
    | some s =>
      obtain rfl := Setting.ofMember?_eq_some_iff.mp hname
      have hsettings : settings ((s.member, text) :: members) = s :: settings members := by
        simp [settings, hname]
      rw [hsettings] at hnew ⊢
      rw [List.map_cons, List.reverse_cons, List.append_assoc, List.singleton_append]
      refine .known (find?_field s) (hnew s List.mem_cons_self) ?_ (hmembers ?_)
      · intro blanks rest hblanks hrest
        have hread := (hgiven s text List.mem_cons_self).reads blanks rest hblanks hrest
        rw [Config.setting_get] at hread
        exact (Traced.outcome_bind_of_ok hread _).trans rfl
      · intro r hr
        have hne : s ≠ r := by
          rintro rfl
          have hcount := honce s
          rw [List.map_cons, List.count_cons_self] at hcount
          exact List.count_eq_zero.mp (Nat.le_zero.mp (Nat.le_of_succ_le_succ hcount))
            (mem_settings_iff.mp hr)
        change (t.get s :: snapshot).any (·.setting == r) = false
        rw [List.any_cons, Config.setting_get, beq_eq_false_iff_ne.mpr hne, Bool.false_or]
        exact hnew r (List.mem_cons_of_mem s hr)

end Snapshot

namespace Config
variable {members : List (String × List Char)} {t : Config}

/-- The default settings, with the values that members have in their places. -/
structure Overlays (members : List (String × List Char)) (t : Config) : Prop where
  given : ∀ s text, (s.member, text) ∈ members → (t.get s).IsWritten text
  kept : ∀ s, s.member ∉ members.map Prod.fst → t.get s = default.get s

theorem Overlays.overlay_eq (h : Overlays members t) :
    Snapshot.overlay (((Snapshot.settings members).map t.get).reverse ++ []) = t := by
  rw [Snapshot.overlay, List.append_nil, List.foldr_reverse]
  apply ext_get
  intro s
  rw [get_foldl_set t.get t.setting_get]
  split
  · rfl
  · rename_i hs
    exact (h.kept s fun hmem => hs (Snapshot.mem_settings_iff.mpr hmem)).symm

theorem Overlays.unique {u : Config} (ht : Overlays members t) (hu : Overlays members u) : t = u := by
  apply ext_get
  intro s
  by_cases hs : s.member ∈ members.map Prod.fst
  · obtain ⟨⟨name, text⟩, hmem, hname⟩ := List.mem_map.mp hs
    obtain rfl : name = s.member := hname
    exact (ht.given s text hmem).unique (hu.given s text hmem) (by rw [setting_get, setting_get])
  · rw [ht.kept s hs, hu.kept s hs]

theorem eq_of_count_le_one {name : String} {text text' : List Char}
    (h : (members.map Prod.fst).count name ≤ 1) (hmem : (name, text) ∈ members)
    (hmem' : (name, text') ∈ members) : text = text' := by
  induction members with
  | nil => exact absurd hmem List.not_mem_nil
  | cons m members ih =>
    rw [List.map_cons] at h
    by_cases hname : m.1 = name
    · have hnone : name ∉ members.map Prod.fst := by
        rw [hname, List.count_cons_self] at h
        exact List.count_eq_zero.mp (Nat.le_zero.mp (Nat.le_of_succ_le_succ h))
      have hfirst {text : List Char} (hmem : (name, text) ∈ m :: members) : (name, text) = m :=
        (List.mem_cons.mp hmem).resolve_right fun hmem =>
          hnone (List.mem_map_of_mem (f := Prod.fst) hmem)
      exact (Prod.mk.inj ((hfirst hmem).trans (hfirst hmem').symm)).2
    · have hrest {text : List Char} (hmem : (name, text) ∈ m :: members) : (name, text) ∈ members :=
        (List.mem_cons.mp hmem).resolve_left fun heq => hname (heq ▸ rfl)
      rw [List.count_cons_of_ne hname] at h
      exact ih h (hrest hmem) (hrest hmem')

theorem exists_overlays (honce : ∀ s : Setting, (members.map Prod.fst).count s.member ≤ 1)
    (htyped : ∀ (s : Setting) text, (s.member, text) ∈ members →
      ∃ change : Change, change.setting = s ∧ change.IsWritten text) : ∃ t, Overlays members t := by
  have hvalue (s : Setting) : ∃ change : Change, change.setting = s ∧
      (∀ text, (s.member, text) ∈ members → change.IsWritten text) ∧
      (s.member ∉ members.map Prod.fst → change = default.get s) := by
    by_cases hs : s.member ∈ members.map Prod.fst
    · obtain ⟨⟨name, text⟩, hmem, hname⟩ := List.mem_map.mp hs
      obtain rfl : name = s.member := hname
      obtain ⟨change, hsetting, hwritten⟩ := htyped s text hmem
      refine ⟨change, hsetting, fun text' hmem' => ?_, fun hnot => absurd hs hnot⟩
      exact eq_of_count_le_one (honce s) hmem hmem' ▸ hwritten
    · refine ⟨default.get s, setting_get _ s, fun text hmem => ?_, fun _ => rfl⟩
      exact absurd (List.mem_map_of_mem (f := Prod.fst) hmem) hs
  choose f hsetting hgiven hkept using hvalue
  have hget (s : Setting) : ((Setting.all.map f).foldl set default).get s = f s := by
    rw [get_foldl_set f hsetting, if_pos s.mem_all]
  exact ⟨_, fun s text hmem => hget s ▸ hgiven s text hmem, fun s hs => (hget s).trans (hkept s hs)⟩

theorem foldl_set_of_outcome {values c d : Config} {order : List Setting}
    (h : (order.foldlM (fun (c : Config) s => c.update (values.get s)) d).outcome = .ok c) :
    (order.map values.get).foldl set d = c := by
  induction order generalizing d with
  | nil => exact Except.ok.inj h
  | cons s order ih =>
    obtain ⟨e, he, h⟩ := Traced.outcome_bind_eq_ok_iff.mp h
    obtain ⟨_, rfl⟩ := outcome_update_eq_ok_iff.mp he
    exact ih h

/-- Values are accepted as they are, if they are coherent. -/
theorem outcome_accept_eq_ok_iff {values c : Config} :
    values.accept.outcome = .ok c ↔ values.Coherent ∧ c = values := by
  constructor
  · intro h
    have hc : c = values := by
      rw [← foldl_set_of_outcome h]
      apply ext_get
      intro s
      rw [get_foldl_set values.get values.setting_get]
      split
      · rfl
      · rename_i hs
        exact get_default_of_not_mem hs
    exact ⟨hc ▸ coherent_of_accept h, hc⟩
  · rintro ⟨hvalues, rfl⟩
    exact hvalues.outcome_accept

end Config

def Json.IsObject (members : List (String × List Char)) (text : String) : Prop :=
  (∀ m ∈ members, IsJson m.2) ∧ ∃ blanks object blanks', Blank blanks ∧ IsBraced members object ∧
    Blank blanks' ∧ text.toList = blanks ++ (object ++ blanks')

namespace Config
variable {members : List (String × List Char)} {text : String} {t c : Config}

/-- A text that holds a snapshot is accepted as the settings that the snapshot is accepted as. -/
theorem outcome_ofJson_of_snapshot {snapshot : Snapshot} {rest : List Char}
    (h : (Snapshot.shape.read text.toList).outcome = .ok (snapshot, rest))
    (hrest : Json.skipSpace rest = []) :
    (ofJson text).outcome = .ok c ↔ snapshot.overlay.accept.outcome = .ok c := by
  rw [ofJson, Json.readDocument, readJson, Traced.outcome_bind_eq_ok_iff,
    Traced.outcome_bind_of_ok h]
  constructor
  · rintro ⟨⟨d, rest'⟩, hread, hend⟩
    obtain ⟨e, haccept, hread⟩ := Traced.outcome_bind_eq_ok_iff.mp hread
    obtain ⟨rfl, rfl⟩ := Prod.mk.inj (Except.ok.inj hread)
    dsimp only at hend
    rw [if_pos hrest] at hend
    obtain rfl := Except.ok.inj hend
    exact Traced.outcome_mapError_eq_ok_iff.mp haccept
  · intro haccept
    refine ⟨(c, rest), ?_, ?_⟩
    · exact (Traced.outcome_bind_of_ok (Traced.outcome_mapError_eq_ok_iff.mpr haccept) _).trans rfl
    · dsimp only
      rw [if_pos hrest]
      rfl

theorem Overlays.outcome_ofJson (h : Overlays members t) (htext : Json.IsObject members text)
    (honce : ∀ s : Setting, (members.map Prod.fst).count s.member ≤ 1) :
    (ofJson text).outcome = .ok c ↔ t.Coherent ∧ c = t := by
  obtain ⟨hvalues, blanks, object, blanks', hblanks, hobject, hblanks', htext⟩ := htext
  have hcollects := @Snapshot.collects_settings [] members t hvalues h.given honce fun _ _ => rfl
  have hstops : Stops blanks' := fun c hc => Or.inr (Or.inr (hblanks' c (List.mem_of_mem_head? hc)))
  have hsnapshot := hcollects.read rfl hobject blanks blanks' hblanks hstops
  have hend : Json.skipSpace blanks' = [] := List.dropWhile_eq_nil_iff.mpr hblanks'
  rw [← htext] at hsnapshot
  rw [outcome_ofJson_of_snapshot hsnapshot hend, h.overlay_eq, outcome_accept_eq_ok_iff]

theorem count_le_one_of_ofJson (htext : Json.IsObject members text)
    (h : (ofJson text).outcome = .ok c) (s : Setting) : (members.map Prod.fst).count s.member ≤ 1 := by
  obtain ⟨hvalues, blanks, object, blanks', hblanks, hobject, hblanks', htext⟩ := htext
  obtain ⟨rest, hread⟩ := Json.exists_of_readDocument h
  obtain ⟨⟨snapshot, rest'⟩, hread, _⟩ := Traced.outcome_bind_eq_ok_iff.mp hread
  rw [htext] at hread
  exact Snapshot.marks_shape.count_le_one Snapshot.consumes_shape hobject hvalues hblanks hread
    (Snapshot.find?_field s)

/-- A snapshot whose members have values of their types is accepted if and only if the default settings
with these values in their places are coherent, and then as these settings. A snapshot that gives a setting
twice is not accepted, whatever the values. -/
theorem ofJson_iff_overlay (members : List (String × List Char)) (text : String)
    (htext : Json.IsObject members text) :
    ((∀ s : Setting, (members.map Prod.fst).count s.member ≤ 1) →
      (∀ (s : Setting) value, (s.member, value) ∈ members →
        ∃ change : Change, change.setting = s ∧ change.IsWritten value) →
      ∃ t, (∀ u, Overlays members u ↔ u = t) ∧
        ∀ c, (ofJson text).outcome = .ok c ↔ t.Coherent ∧ c = t) ∧
    ((∃ s : Setting, 2 ≤ (members.map Prod.fst).count s.member) →
      ∀ c, (ofJson text).outcome ≠ .ok c) := by
  constructor
  · intro honce htyped
    obtain ⟨t, ht⟩ := exists_overlays honce htyped
    refine ⟨t, fun u => ⟨fun hu => hu.unique ht, fun h => h ▸ ht⟩, ?_⟩
    exact fun c => ht.outcome_ofJson htext honce
  · rintro ⟨s, hs⟩ c hc
    have hcount := count_le_one_of_ofJson htext hc s
    omega

theorem ofJson_iff_overlay_out_of_order :
    (ofJson "\x7b\"x\":7,\"\\u006dode\":\"AT_LEAST_ONCE\"\x7d").outcome =
        .ok { default with mode := .atLeastOnce } ∧
      ∀ c, (ofJson "\x7b\"mode\":null,\"mode\":null\x7d").outcome ≠ .ok c := by
  have hplain : ∀ c ∈ "AT_LEAST_ONCE".toList, Json.IsPlain c := by simp [Json.IsPlain]
  have hx : Json.Named "x" "\"x\":".toList :=
    ⟨"x".toList, [], Json.spells_self (by simp [Json.IsPlain]), Json.blank_nil, rfl⟩
  have hmode : Json.Named "mode" "\"mode\":".toList :=
    ⟨"mode".toList, [], Json.spells_self (by simp [Json.IsPlain]), Json.blank_nil, rfl⟩
  have hescaped : Json.Named "mode" "\"\\u006dode\":".toList := by
    have hm : Json.Hex ['0', '0', '6', 'd'] 0x6d := @Json.Hex.digits _ _ _ _ 0 0 6 13 rfl rfl rfl rfl
    refine ⟨"\\u006dode".toList, [], ?_, Json.blank_nil, rfl⟩
    exact .unicode hm rfl rfl (@Json.spells_self "ode".toList (by simp [Json.IsPlain]))
  have hseven : IsJson ['7'] := by
    refine .leaf (.number ⟨['7'], [], [], ⟨⟨by simp, ?_⟩, by simp⟩, .inl rfl, .inl rfl, rfl⟩)
    exact List.forall_mem_singleton.mpr rfl
  have hlabel : IsVariant "AT_LEAST_ONCE" ('"' :: ("AT_LEAST_ONCE".toList ++ ['"'])) :=
    .string (Json.spells_self hplain)
  have hstring : IsJson ('"' :: ("AT_LEAST_ONCE".toList ++ ['"'])) :=
    .leaf (.string (Json.spells_self hplain).isContents)
  have hnull : IsJson "null".toList := .leaf .null
  constructor
  · have htext : Json.IsObject [("x", ['7']), ("mode", '"' :: ("AT_LEAST_ONCE".toList ++ ['"']))]
        "\x7b\"x\":7,\"\\u006dode\":\"AT_LEAST_ONCE\"\x7d" := by
      have hlaid := @Json.Laid.some _ Json.Named [] _ [] ['7'] _ "x" _ Json.blank_nil hx Json.blank_nil
        (@Json.Following.more _ _ [] [] _ [] ('"' :: ("AT_LEAST_ONCE".toList ++ ['"'])) _ "mode" _
          Json.blank_nil Json.blank_nil hescaped Json.blank_nil (.done Json.blank_nil))
      exact ⟨List.forall_mem_cons.mpr ⟨hseven, List.forall_mem_singleton.mpr hstring⟩, [], _, [],
        Json.blank_nil, ⟨_, hlaid, rfl⟩, Json.blank_nil, rfl⟩
    have hoverlays : Overlays [("x", ['7']), ("mode", '"' :: ("AT_LEAST_ONCE".toList ++ ['"']))]
        { default with mode := .atLeastOnce } := by
      constructor
      · intro s value hmem
        rcases List.mem_cons.mp hmem with heq | hmem
        · exact absurd (Prod.mk.inj heq).1 (by cases s <;> decide)
        · obtain ⟨hname, rfl⟩ := Prod.mk.inj (List.mem_singleton.mp hmem)
          obtain rfl : s = .mode := Setting.member_injective hname
          exact hlabel
      · intro s hs
        cases s <;> first | rfl | exact absurd hs (by decide)
    obtain ⟨t, ht, hread⟩ := (ofJson_iff_overlay _ _ htext).1 (by rintro (_ | _) <;> decide)
      fun s value hmem => ⟨_, setting_get _ s, hoverlays.given s value hmem⟩
    obtain rfl := (ht _).mp hoverlays
    exact (hread _).mpr ⟨by decide, rfl⟩
  · apply (ofJson_iff_overlay [("mode", "null".toList), ("mode", "null".toList)] _ ?_).2
    · exact ⟨.mode, by decide⟩
    · have hlaid := @Json.Laid.some _ Json.Named [] _ [] "null".toList _ "mode" _ Json.blank_nil hmode
        Json.blank_nil (@Json.Following.more _ _ [] [] _ [] "null".toList _ "mode" _
          Json.blank_nil Json.blank_nil hmode Json.blank_nil (.done Json.blank_nil))
      exact ⟨List.forall_mem_cons.mpr ⟨hnull, List.forall_mem_singleton.mpr hnull⟩, [], _, [],
        Json.blank_nil, ⟨_, hlaid, rfl⟩, Json.blank_nil, rfl⟩

end Config
end Checkpointing
