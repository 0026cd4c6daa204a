import Checkpointing.Proofs.Duration.Text
import Checkpointing.Proofs.Options.Batch
import Checkpointing.Proofs.Session.Reachability

/-!
# Settings written as options

The text that a value is written as denotes the value. So the options that settings are written as
lead from any settings to these, but for an interval that stays when there is none to write.
-/

namespace Checkpointing
set_option autoImplicit false

theorem Text.trim_eq_self {s : String} (h : ∀ c ∈ s.toList, isBlank c = false) : trim s = s := by
  have hkeep : trimChars s.toList = s.toList :=
    trimChars_eq_self (fun c hc => h c (List.mem_of_mem_head? hc))
      fun c hc => h c (List.mem_of_getLast? hc)
  rw [trim, hkeep, String.ofList_toList]

theorem Text.trim_toString_nat (n : Nat) : trim (toString n) = toString n := by
  apply trim_eq_self
  intro c hc
  rw [Nat.toString_eq_ofList_toDigits, String.toList_ofList] at hc
  exact Span.isBlank_of_isDigit ((Numeral.isDigits_toDigits n).2 c hc)

theorem Text.trim_toString_int (z : Int) : trim (toString z) = toString z := by
  have hdigits := (Numeral.isDigits_toDigits z.natAbs).2
  apply trim_eq_self
  intro c hc
  rw [Numeral.toList_toString_int] at hc
  split at hc
  · rcases List.mem_cons.mp hc with rfl | hc
    · decide
    · exact Span.isBlank_of_isDigit (hdigits c hc)
  · exact Span.isBlank_of_isDigit (hdigits c hc)

theorem Numeral.denotes_trim_toString (n : Nat) : Denotes (Text.trim (toString n)).toList n := by
  rw [Text.trim_toString_nat, Nat.toString_eq_ofList_toDigits, String.toList_ofList]
  exact denotes_toDigits n

theorem Naming.label_trim_name {α : Type} (naming : Naming α) (a : α) :
    Text.label (Text.trim (naming.name a)) = naming.name a := by
  have hcanonical := naming.isCanonical_name a
  rw [Text.trim_eq_self fun c hc => (hcanonical c hc).2, hcanonical.label_eq_self]

namespace Options

theorem denotesFlag_trim_toString (on : Bool) : DenotesFlag (Text.trim (toString on)) on := by
  unfold DenotesFlag
  cases on <;> decide

theorem denotesMillis_of_denotes {text : String} {n : Nat} (h : Numeral.Denotes text.toList n)
    (hn : n < 2 ^ 64) : DenotesMillis text n := by
  have hval : (UInt64.ofNat n).toNat = n := UInt64.toNat_ofNat_of_lt' hn
  have hd := Duration.totalNanos_ofMillis (UInt64.ofNat n)
  rw [hval] at hd
  exact ⟨_, Or.inl ⟨n, h, hn, hd⟩, hd⟩

theorem denotesMillis_trim_toString (ms : UInt64) :
    DenotesMillis (Text.trim (toString ms)) ms.toNat :=
  denotesMillis_of_denotes (Numeral.denotes_trim_toString ms.toNat) ms.toNat_lt

theorem denotesMillis_trim_toString_int {ms : Int64} (h : 0 ≤ ms.toInt) :
    DenotesMillis (Text.trim (toString ms)) ms.toInt.toNat := by
  have hlt := ms.toInt_lt
  refine denotesMillis_of_denotes ?_ (by omega)
  obtain ⟨n, hn⟩ := Int.eq_ofNat_of_zero_le h
  have htext : toString ms = toString n := by
    change toString ms.toInt = toString n
    rw [hn]
    rfl
  rw [htext, hn]
  exact Numeral.denotes_trim_toString n

theorem denotesDuration_trim_text (d : Duration) : DenotesDuration (Text.trim d.text) d := by
  rw [d.trim_text]
  exact Or.inr ⟨fun n hn => absurd hn (d.not_denotes_text n), d.read_text⟩

end Options

namespace Change
open Options

/-- The written form of a value denotes it, but for a negative interval. -/
theorem denotes_trim_text {change : Change} (h : ∀ ms, change = .interval ms → 0 ≤ ms) :
    change.Denotes (Text.trim change.text) := by
  cases change with
  | interval ms =>
    have hms : 0 ≤ ms := h ms rfl
    exact ⟨hms, denotesMillis_trim_toString_int (Int64.le_iff_toInt_le.mp hms)⟩
  | mode m => exact Mode.naming.label_trim_name m
  | timeout ms => exact denotesMillis_trim_toString ms
  | minPause ms => exact denotesMillis_trim_toString ms
  | maxConcurrent n => exact Numeral.denotes_trim_toString n.toNat
  | failOnErrors on => exact denotesFlag_trim_toString on
  | tolerableFailures n => exact Numeral.denotes_trim_toString n.toNat
  | retention r => exact Retention.naming.label_trim_name r
  | approximateRecovery on => exact denotesFlag_trim_toString on
  | unaligned on => exact denotesFlag_trim_toString on
  | forceUnaligned on => exact denotesFlag_trim_toString on
  | alignmentTimeout d => exact denotesDuration_trim_text d
  | ignoredCheckpoint id =>
    change Numeral.DenotesInt (Text.trim (toString id.toInt)).toList id.toInt
    rw [Text.trim_toString_int]
    exact Numeral.denotesInt_toString id.toInt

def option (change : Change) : String × String := (change.setting.key, change.text)

theorem InRange.nonneg {change : Change} (h : change.InRange) (ms : Int64)
    (hms : change = .interval ms) : 0 ≤ ms := by
  subst hms
  exact Int64.le_of_lt h

end Change

namespace Options

def write (options : Options) (change : Change) : Options :=
  options.insert change.option.1 change.option.2

theorem lookup_write (options : Options) (change : Change) (s : Setting) :
    (options.write change).lookup s =
      if s = change.setting then some change.text else options.lookup s := by
  rw [lookup, write, Std.TreeMap.getElem?_insert]
  simp only [Std.LawfulEqCmp.compare_eq_iff_eq, Change.option]
  by_cases hs : s = change.setting
  · rw [if_pos hs, if_pos (congrArg Setting.key hs.symm)]
  · rw [if_neg hs, if_neg fun hkey => hs (Setting.key_injective hkey).symm]
    rfl

end Options

namespace Config

theorem mem_writtenSettings_iff {t : Config} {s : Setting} :
    s ∈ t.writtenSettings ↔ s = .interval → t.isEnabled = true := by
  simp [writtenSettings, Setting.mem_all, Decidable.imp_iff_not_or]

theorem nodup_writtenSettings (t : Config) : t.writtenSettings.Nodup :=
  List.Pairwise.filter _ Setting.nodup_all

theorem lookup_toOptions_of_mem {t : Config} {s : Setting} (h : s ∈ t.writtenSettings) :
    t.toOptions.lookup s = some (t.get s).text := by
  refine Std.TreeMap.getElem?_ofList_of_mem Std.ReflCmp.compare_self ?_ (List.mem_map.mpr ⟨s, h, rfl⟩)
  refine List.pairwise_map.mpr (t.nodup_writtenSettings.imp ?_)
  intro a b hab heq
  exact hab (Setting.key_injective (Std.LawfulEqCmp.eq_of_compare heq))

theorem lookup_toOptions_of_not_mem {t : Config} {s : Setting} (h : s ∉ t.writtenSettings) :
    t.toOptions.lookup s = none := by
  apply Std.TreeMap.getElem?_ofList_of_contains_eq_false
  rw [Bool.eq_false_iff, ne_eq, List.contains_iff_mem]
  intro hmem
  obtain ⟨pair, hpair, hkey⟩ := List.mem_map.mp hmem
  obtain ⟨r, hr, rfl⟩ := List.mem_map.mp hpair
  exact h (Setting.key_injective hkey ▸ hr)

/-- The settings `t`, but with the interval of `c` if only `c` has one. -/
def landing (c t : Config) : Config :=
  if t.isEnabled ∨ ¬c.isEnabled then t else { t with interval := c.interval }

theorem coherent_landing {c t : Config} (hc : c.Coherent) (ht : t.Coherent) :
    (landing c t).Coherent := by
  unfold landing
  split
  · exact ht
  · exact ⟨hc.interval, ht.timeout, ht.maxConcurrent, ht.exactlyOnce, ht.noRecovery,
      ht.ignoredCheckpoint⟩

theorem get_landing_of_mem {c t : Config} {s : Setting} (h : s ∈ t.writtenSettings) :
    (landing c t).get s = t.get s := by
  rw [mem_writtenSettings_iff] at h
  unfold landing
  split
  · rfl
  · rename_i hoff
    cases s <;> first | rfl | exact absurd (Or.inl (h rfl)) hoff

theorem isEnabled_iff_pos {c : Config} : c.isEnabled = true ↔ 0 < c.interval := by
  simp [isEnabled]

theorem Coherent.interval_of_disabled {c : Config} (hc : c.Coherent) (h : ¬c.isEnabled = true) :
    c.interval = disabledInterval :=
  hc.interval.resolve_right fun hpos => h (isEnabled_iff_pos.mpr hpos)

theorem get_landing_of_not_mem {c t : Config} {s : Setting} (hc : c.Coherent) (ht : t.Coherent)
    (h : s ∉ t.writtenSettings) : (landing c t).get s = c.get s := by
  rw [mem_writtenSettings_iff, Classical.not_imp] at h
  obtain ⟨rfl, hoff⟩ := h
  unfold landing
  split
  · rename_i hc'
    have hcoff := hc'.resolve_left hoff
    have heq : t.interval = c.interval :=
      (ht.interval_of_disabled hoff).trans (hc.interval_of_disabled hcoff).symm
    exact congrArg Change.interval heq
  · rfl

theorem replaces_toOptions {c t : Config} (hc : c.Coherent) (ht : t.Coherent) :
    Replaces t.toOptions c (landing c t) where
  given s value hvalue := by
    by_cases hs : s ∈ t.writtenSettings
    · rw [lookup_toOptions_of_mem hs] at hvalue
      obtain rfl := Option.some.inj hvalue
      have hrange : (t.get s).InRange := ht.inRange_get fun hi =>
        isEnabled_iff_pos.mp (mem_writtenSettings_iff.mp hs hi)
      rw [get_landing_of_mem hs]
      exact ⟨Change.denotes_trim_text hrange.nonneg, hrange⟩
    · rw [lookup_toOptions_of_not_mem hs] at hvalue
      exact absurd hvalue (by simp)
  kept s hnone := by
    apply get_landing_of_not_mem hc ht
    intro hs
    rw [lookup_toOptions_of_mem hs] at hnone
    exact absurd hnone (by simp)

theorem outcome_configure_toOptions {c t : Config} (hc : c.Coherent) (ht : t.Coherent) :
    (c.configure t.toOptions).outcome = .ok (landing c t) :=
  (replaces_toOptions hc ht).outcome_configure (coherent_landing hc ht)

/-- One batch leads from any coherent settings to any others. -/
theorem configure_toOptions_between :
    (∀ c t : Config, c.Coherent → t.Coherent → (c.configure t.toOptions).outcome =
      .ok (if t.isEnabled ∨ ¬c.isEnabled then t else { t with interval := c.interval })) ∧
      ∀ t : Config, t.Reachable → (ofOptions t.toOptions).outcome = .ok t := by
  constructor
  · intro c t hc ht
    exact outcome_configure_toOptions hc ht
  · intro t ht
    have hland : landing default t = t := if_pos (Or.inr (by decide))
    rw [ofOptions, outcome_configure_toOptions coherent_default ht.coherent, hland]

def longestAlignment : Config :=
  { default with mode := .atLeastOnce, alignmentTimeout := .largest }

theorem configure_toOptions_between_keeping_interval :
    ({ default with interval := 5, unaligned := true } : Config).Coherent ∧
      longestAlignment.Coherent ∧
      (configure longestAlignment.toOptions { default with interval := 5, unaligned := true }).outcome =
        .ok { longestAlignment with interval := 5 } :=
  ⟨by decide, by decide, configure_toOptions_between.1 _ _ (by decide) (by decide)⟩

end Config
end Checkpointing
