import Checkpointing.Proofs.Options.Merging
import Checkpointing.Proofs.Options.Rendering
import Checkpointing.Report

/-!
# Tables read back

The rows of a printed table stand between its last two rules, each split where the column of keys ends.
Neither keys nor values have line breaks, so the rows are the options that were printed, whatever the name
at the head of the table is.
-/

namespace Checkpointing
set_option autoImplicit false

/-! ## Texts without line breaks -/

def Text.OnOneLine (s : String) : Prop := '\n' ∉ s.toList

namespace Text

theorem onOneLine_toString_nat (n : Nat) : OnOneLine (toString n) := by
  intro hmem
  rw [Nat.toString_eq_ofList_toDigits, String.toList_ofList] at hmem
  exact absurd ((Numeral.isDigits_toDigits n).2 _ hmem) (by decide)

theorem onOneLine_toString_int (z : Int) : OnOneLine (toString z) := by
  intro hmem
  rw [Numeral.toList_toString_int] at hmem
  have hdigits := (Numeral.isDigits_toDigits z.natAbs).2 '\n'
  split at hmem
  · rcases List.mem_cons.mp hmem with heq | hmem
    · exact absurd heq (by decide)
    · exact absurd (hdigits hmem) (by decide)
  · exact absurd (hdigits hmem) (by decide)

theorem onOneLine_toString_bool (on : Bool) : OnOneLine (toString on) := by
  unfold OnOneLine
  cases on <;> decide

theorem OnOneLine.append {s t : String} (hs : OnOneLine s) (ht : OnOneLine t) : OnOneLine (s ++ t) := by
  unfold OnOneLine
  rw [String.toList_append, List.mem_append]
  exact not_or.mpr ⟨hs, ht⟩

end Text

open Text (OnOneLine)

namespace Duration

theorem of_mem_intercalate {ps : List Part} (hps : ∀ p ∈ ps, ∃ u, p.Stands u) {c : Char}
    (hc : c ∈ [' '].intercalate (ps.map (·.text.toList))) :
    c = ' ' ∨ c.isDigit = true ∨ Span.isUnitLetter c = true := by
  induction ps with
  | nil => exact absurd hc (by simp)
  | cons p ps ih =>
    obtain ⟨u, hp⟩ := hps p List.mem_cons_self
    have hpart : c ∈ p.text.toList → c = ' ' ∨ c.isDigit = true ∨ Span.isUnitLetter c = true := by
      intro hc
      rw [Part.toList_text, List.mem_append] at hc
      rcases hc with hc | hc
      · exact .inr (.inl ((Numeral.isDigits_toDigits p.count).2 c hc))
      · exact .inr (.inr ((Span.isUnitLetter_of_ofName? hp.ofName?).2 c hc))
    cases ps with
    | nil => exact hpart (by simpa using hc)
    | cons q ps =>
      rw [List.map_cons, List.map_cons, List.intercalate_cons_cons, List.mem_append,
        List.mem_append, List.mem_singleton] at hc
      rcases hc with (hc | rfl) | hc
      · exact hpart hc
      · exact .inl rfl
      · exact ih (fun r hr => hps r (List.mem_cons_of_mem _ hr)) hc

theorem onOneLine_text (d : Duration) : OnOneLine d.text := by
  intro hmem
  rcases d.toList_text with ⟨_, htext⟩ | ⟨_, htext⟩
  · rw [htext] at hmem
    exact absurd hmem (by decide)
  · rw [htext] at hmem
    rcases of_mem_intercalate (fun p hp => exists_stands (List.mem_of_mem_filter hp)) hmem with h | h | h
    · exact absurd h (by decide)
    · exact absurd h (by decide)
    · exact absurd h (by decide)

end Duration

theorem Change.onOneLine_text (change : Change) : OnOneLine change.text := by
  cases change with
  | interval ms => exact Text.onOneLine_toString_int ms.toInt
  | mode m => unfold OnOneLine; cases m <;> decide
  | timeout ms => exact Text.onOneLine_toString_nat ms.toNat
  | minPause ms => exact Text.onOneLine_toString_nat ms.toNat
  | maxConcurrent n => exact Text.onOneLine_toString_nat n.toNat
  | failOnErrors on => exact Text.onOneLine_toString_bool on
  | tolerableFailures n => exact Text.onOneLine_toString_nat n.toNat
  | retention r => unfold OnOneLine; cases r <;> decide
  | approximateRecovery on => exact Text.onOneLine_toString_bool on
  | unaligned on => exact Text.onOneLine_toString_bool on
  | forceUnaligned on => exact Text.onOneLine_toString_bool on
  | alignmentTimeout d => exact d.onOneLine_text
  | ignoredCheckpoint id => exact Text.onOneLine_toString_int id.toInt

/-- What a table relies on in a key: it is on one line, of ASCII characters, and no rule. -/
structure Setting.KeyPrints (s : Setting) : Prop where
  onOneLine : OnOneLine s.key
  last : s.key.toList.getLast? ≠ some ' '
  first : s.key.toList.head? = some 'e'
  size : s.key.utf8ByteSize = s.key.length

theorem Setting.keyPrints (s : Setting) : s.KeyPrints := by
  cases s <;> exact ⟨by unfold OnOneLine; decide, by decide, by decide, by decide⟩

namespace Report

/-! ## Lines and rows -/

def linesFromEnd (text : String) : List String :=
  ((text.toList.splitOn '\n').map String.ofList).reverse

/-- A row split where the column of keys ends. The column is filled up with blanks, and two more follow
it. -/
def splitRow (width : Nat) (row : String) : String × String :=
  (String.ofList ((row.toList.take width).rdropWhile (· == ' ')),
    String.ofList (row.toList.drop (width + 2)))

/-- The rows of a printed table: above its last rule, up to the rule before. Rules are wider than the
column of keys by thirty characters. -/
def printedRows (text : String) : List (String × String) :=
  match linesFromEnd text with
  | _ :: _ :: rule :: above =>
    ((above.takeWhile (· ≠ rule)).map (splitRow (rule.length - 30))).reverse
  | _ => []

section Lines
variable {lines : List String}

/-- Lines that are ended one by one are split again. The first may be several. -/
theorem splitOn_join (title : String) (h : ∀ line ∈ lines, OnOneLine line) :
    (String.join ((title :: lines).map (· ++ "\n"))).toList.splitOn '\n' =
      title.toList.splitOn '\n' ++ (lines.map String.toList ++ [[]]) := by
  induction lines generalizing title with
  | nil =>
    have htext : (String.join ([title].map (· ++ "\n"))).toList = title.toList ++ '\n' :: [] := by simp
    rw [htext, List.splitOn_append_cons_self]
    rfl
  | cons line lines ih =>
    have htext : (String.join ((title :: line :: lines).map (· ++ "\n"))).toList =
        title.toList ++ '\n' :: (String.join ((line :: lines).map (· ++ "\n"))).toList := by
      simp [String.toList_join]
    rw [htext, List.splitOn_append_cons_self, ih line fun l hl => h l (List.mem_cons_of_mem line hl),
      List.splitOn_eq_singleton (h line List.mem_cons_self)]
    rfl

theorem linesFromEnd_join (title : String) (h : ∀ line ∈ lines, OnOneLine line) :
    ∃ rest, linesFromEnd (String.join ((title :: lines).map (· ++ "\n"))) =
      "" :: (lines.reverse ++ rest) := by
  refine ⟨((title.toList.splitOn '\n').map String.ofList).reverse, ?_⟩
  rw [linesFromEnd, splitOn_join title h]
  simp [Function.comp_def]

end Lines

theorem toList_padded (width : Nat) (s : String) :
    (padded width s).toList = s.toList ++ List.replicate (width - s.length) ' ' := by
  rw [padded, String.toList_append, String.toList_ofList]

theorem rdropWhile_blanks (cs : List Char) (n : Nat) :
    (cs ++ List.replicate n ' ').rdropWhile (· == ' ') = cs.rdropWhile (· == ' ') := by
  induction n with
  | zero => rw [List.replicate_zero, List.append_nil]
  | succ n ih =>
    rw [List.replicate_succ', ← List.append_assoc, List.rdropWhile_concat_pos _ _ _ (by decide), ih]

theorem splitRow_row {width : Nat} {key value : String} (hlast : key.toList.getLast? ≠ some ' ')
    (hwidth : key.length ≤ width) : splitRow width (row width key value) = (key, value) := by
  have hlength : (padded width key).toList.length = width := by
    rw [toList_padded, List.length_append, List.length_replicate, String.length_toList]
    omega
  have hrow : (row width key value).toList =
      (padded width key).toList ++ (' ' :: ' ' :: value.toList) := by
    simp [row]
  have hkey : (padded width key).toList.rdropWhile (· == ' ') = key.toList := by
    rw [toList_padded, rdropWhile_blanks, List.rdropWhile_eq_self_iff]
    intro hne hblank
    rw [List.getLast?_eq_some_getLast hne] at hlast
    exact hlast (congrArg some (beq_iff_eq.mp hblank))
  have hvalue : (row width key value).toList.drop (width + 2) = value.toList := by
    rw [hrow, List.drop_append, hlength, Nat.add_sub_cancel_left,
      List.drop_eq_nil_of_le (by omega), List.nil_append]
    rfl
  rw [splitRow, hvalue, hrow, List.take_left' hlength, hkey, String.ofList_toList,
    String.ofList_toList]

theorem utf8ByteSize_le_keyWidth {options : Options} {key : String} (h : key ∈ options.keys) :
    key.utf8ByteSize ≤ keyWidth options := by
  have hfold : ∀ (keys : List String) (width : Nat), (key ∈ keys ∨ key.utf8ByteSize ≤ width) →
      key.utf8ByteSize ≤ keys.foldl (fun width key => max width key.utf8ByteSize) width := by
    intro keys
    induction keys with
    | nil => exact fun width h => h.resolve_left List.not_mem_nil
    | cons first keys ih =>
      intro width h
      apply ih
      rcases h with h | h
      · rcases List.mem_cons.mp h with rfl | h
        · exact .inr (Nat.le_max_right _ _)
        · exact .inl h
      · exact .inr (Nat.le_trans h (Nat.le_max_left _ _))
  exact hfold options.keys 0 (.inl h)

end Report

namespace Config

/-- Each of the options that settings are written as carries the value of a setting. -/
theorem exists_of_mem_toOptions {c : Config} {key value : String}
    (h : (key, value) ∈ c.toOptions.toList) : ∃ s, key = s.key ∧ value = (c.get s).text := by
  rw [Std.TreeMap.mem_toList_iff_getElem?_eq_some] at h
  have hkey : key ∈ (c.writtenSettings.map fun s => (s.key, (c.get s).text)).map Prod.fst := by
    by_contra hnot
    have hnone : c.toOptions[key]? = none := by
      apply Std.TreeMap.getElem?_ofList_of_contains_eq_false
      rw [Bool.eq_false_iff, ne_eq, List.contains_iff_mem]
      exact hnot
    rw [hnone] at h
    exact absurd h (by simp)
  obtain ⟨pair, hpair, rfl⟩ := List.mem_map.mp hkey
  obtain ⟨s, hs, rfl⟩ := List.mem_map.mp hpair
  have hlookup := lookup_toOptions_of_mem hs
  exact ⟨s, rfl, Option.some.inj (h.symm.trans hlookup)⟩

end Config

namespace Report
variable {c : Config}

theorem splitRow_option {option : String × String} (h : option ∈ c.toOptions.toList) :
    splitRow (keyWidth c.toOptions) (row (keyWidth c.toOptions) option.1 option.2) = option := by
  have hmem : option.1 ∈ c.toOptions.keys := by
    rw [← Std.TreeMap.map_fst_toList_eq_keys]
    exact List.mem_map_of_mem h
  have hwidth := utf8ByteSize_le_keyWidth hmem
  obtain ⟨s, hkey, _⟩ := Config.exists_of_mem_toOptions h
  have hprints := s.keyPrints
  rw [hkey, hprints.size] at hwidth
  exact splitRow_row (hkey ▸ hprints.last) (hkey ▸ hwidth)

theorem length_rule (width : Nat) (c : Char) : (rule width c).length = width + 30 := by
  rw [rule, String.length_ofList, List.length_replicate]

theorem onOneLine_rule (width : Nat) {c : Char} (hc : c ≠ '\n') : OnOneLine (rule width c) := by
  intro hmem
  rw [rule, String.toList_ofList] at hmem
  exact hc (List.eq_of_mem_replicate hmem).symm

theorem onOneLine_row {key value : String} (width : Nat) (hkey : OnOneLine key)
    (hvalue : OnOneLine value) : OnOneLine (row width key value) := by
  have hpadded : OnOneLine (padded width key) := by
    refine hkey.append fun hmem => ?_
    rw [String.toList_ofList] at hmem
    exact absurd (List.eq_of_mem_replicate hmem) (by decide)
  refine (hpadded.append ?_).append hvalue
  unfold OnOneLine
  decide

theorem onOneLine_summary (c : Config) : OnOneLine (summary c) := by
  have htext : OnOneLine "checkpointing: " ∧ OnOneLine "   externalized: " ∧
      OnOneLine "   effective tolerable failures: " ∧ OnOneLine "enabled" ∧ OnOneLine "disabled" := by
    unfold OnOneLine
    decide
  have henabled : OnOneLine (if c.isEnabled then "enabled" else "disabled") := by
    split
    · exact htext.2.2.2.1
    · exact htext.2.2.2.2
  exact ((((htext.1.append henabled).append htext.2.1).append (Text.onOneLine_toString_bool _)).append
    htext.2.2.1).append (Text.onOneLine_toString_nat _)

theorem row_ne_rule (s : Setting) (width width' : Nat) (value : String) :
    row width s.key value ≠ rule width' '-' := by
  intro heq
  have hrow : (row width s.key value).toList.head? = some 'e' := by
    simp [row, toList_padded, List.head?_append, s.keyPrints.first]
  have hrule : (rule width' '-').toList.head? = some '-' := by
    rw [rule, String.toList_ofList, List.replicate_succ]
    rfl
  rw [heq, hrule] at hrow
  exact absurd hrow (by decide)

def optionRows (c : Config) : List String :=
  c.toOptions.toList.map fun option => row (keyWidth c.toOptions) option.1 option.2

theorem splitRow_optionRows (c : Config) :
    (optionRows c).map (splitRow (keyWidth c.toOptions)) = c.toOptions.toList := by
  rw [optionRows, List.map_map]
  exact (List.map_congr_left fun _ => splitRow_option).trans (List.map_id _)

theorem onOneLine_optionRows {line : String} (h : line ∈ optionRows c) : OnOneLine line := by
  obtain ⟨option, hoption, rfl⟩ := List.mem_map.mp h
  obtain ⟨s, hkey, hvalue⟩ := Config.exists_of_mem_toOptions hoption
  rw [hkey, hvalue]
  exact onOneLine_row _ s.keyPrints.onOneLine (c.get s).onOneLine_text

theorem optionRows_ne_rule {line : String} (h : line ∈ optionRows c) :
    line ≠ rule (keyWidth c.toOptions) '-' := by
  obtain ⟨option, hoption, rfl⟩ := List.mem_map.mp h
  obtain ⟨s, hkey, _⟩ := Config.exists_of_mem_toOptions hoption
  rw [hkey]
  exact row_ne_rule s _ _ _

def body (c : Config) : List String :=
  let width := keyWidth c.toOptions
  [rule width '=', row width "Option" "Value", rule width '-'] ++
    (optionRows c ++ [rule width '-', summary c])

theorem onOneLine_body {line : String} (h : line ∈ body c) : OnOneLine line := by
  have hhead : OnOneLine "Option" ∧ OnOneLine "Value" := by
    unfold OnOneLine
    decide
  simp only [body, List.mem_append, List.mem_cons, List.not_mem_nil, or_false] at h
  rcases h with (rfl | rfl | rfl) | h | rfl | rfl
  · exact onOneLine_rule _ (by decide)
  · exact onOneLine_row _ hhead.1 hhead.2
  · exact onOneLine_rule _ (by decide)
  · exact onOneLine_optionRows h
  · exact onOneLine_rule _ (by decide)
  · exact onOneLine_summary c

theorem takeWhile_optionRows (c : Config) (above : List String) :
    ((optionRows c).reverse ++ rule (keyWidth c.toOptions) '-' :: above).takeWhile
      (· ≠ rule (keyWidth c.toOptions) '-') = (optionRows c).reverse := by
  rw [List.takeWhile_append_of_pos, List.takeWhile_cons_of_neg (by simp), List.append_nil]
  intro line hline
  exact decide_eq_true (optionRows_ne_rule (List.mem_reverse.mp hline))

/-- The rows that a table prints are the options that the settings are written as. -/
theorem printedRows_text (name : String) (c : Config) :
    printedRows (text name c .table) = c.toOptions.toList := by
  have htext : text name c .table =
      String.join ((("Checkpoint configuration for " ++ name) :: body c).map (· ++ "\n")) := by
    rw [text, tableLines, body, optionRows]
    simp
  obtain ⟨rest, hlines⟩ := linesFromEnd_join ("Checkpoint configuration for " ++ name)
    fun line => onOneLine_body (c := c)
  rw [printedRows, htext, hlines, body]
  simp only [List.reverse_append, List.reverse_cons, List.reverse_nil, List.nil_append,
    List.cons_append, List.append_assoc]
  rw [takeWhile_optionRows, length_rule, Nat.add_sub_cancel, List.map_reverse, List.reverse_reverse,
    splitRow_optionRows]

theorem getElem?_ofPairs_toList (options : Options) (key : String) :
    (Options.ofPairs options.toList)[key]? = options[key]? := by
  cases hkey : options[key]? with
  | some value =>
    exact Std.TreeMap.getElem?_ofList_of_mem Std.ReflCmp.compare_self
      Std.TreeMap.distinct_keys_toList (Std.TreeMap.mem_toList_iff_getElem?_eq_some.mpr hkey)
  | none =>
    apply Std.TreeMap.getElem?_ofList_of_contains_eq_false
    rw [Bool.eq_false_iff, ne_eq, List.contains_iff_mem]
    intro hmem
    obtain ⟨pair, hpair, rfl⟩ := List.mem_map.mp hmem
    rw [Std.TreeMap.mem_toList_iff_getElem?_eq_some.mp hpair] at hkey
    exact absurd hkey (by simp)

theorem outcome_ofOptions_printedRows (name : String) (hc : c.Coherent) :
    (Config.ofOptions (.ofPairs (printedRows (text name c .table)))).outcome = .ok c := by
  have hland : Config.landing .default c = c := if_pos (.inr (by decide))
  have hlookup : ∀ s, (Options.ofPairs c.toOptions.toList).lookup s = c.toOptions.lookup s :=
    fun s => getElem?_ofPairs_toList c.toOptions s.key
  rw [printedRows_text, Config.ofOptions, Config.outcome_configure_congr hlookup,
    Config.outcome_configure_toOptions Config.coherent_default hc, hland]

end Report
end Checkpointing
