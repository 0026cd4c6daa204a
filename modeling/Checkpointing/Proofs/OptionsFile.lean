import Checkpointing.OptionsFile
import Checkpointing.Proofs.Options.Merging

/-!
# Options files as trees

A tree is read key by key and leaf by leaf, in the order of the document, up to the first that is no text.
What comes of it depends on nothing else: neither on how the keys are nested nor on whether a leaf is
written as a number, as a truth value or as a string.
-/

namespace Checkpointing
set_option autoImplicit false

theorem Options.getElem?_ofPairs (pairs : List (String × String)) (key : String) :
    (ofPairs pairs)[key]? = pairs.reverse.lookup key := by
  rw [ofPairs, Std.TreeMap.ofList_eq_insertMany_empty, ← foldl_insert, ← List.foldr_reverse]
  induction pairs.reverse with
  | nil => exact Std.TreeMap.getElem?_emptyc
  | cons pair pairs ih =>
    rw [List.foldr_cons, Std.TreeMap.getElem?_insert, ih, List.lookup_cons]
    by_cases hkey : pair.1 = key
    · simp [hkey]
    · rw [if_neg fun heq => hkey (Std.LawfulEqCmp.compare_eq_iff_eq.mp heq),
        beq_eq_false_iff_ne.mpr (Ne.symm hkey)]

theorem Options.getElem?_ofPairs_eq_some_iff {pairs : List (String × String)} {key value : String} :
    (ofPairs pairs)[key]? = some value ↔ ∃ before after, pairs = before ++ (key, value) :: after ∧
      ∀ pair ∈ after, pair.1 ≠ key := by
  rw [getElem?_ofPairs, List.lookup_eq_some_iff]
  constructor
  · rintro ⟨after, before, hpairs, hafter⟩
    refine ⟨before.reverse, after.reverse, ?_, ?_⟩
    · rw [← List.reverse_reverse pairs, hpairs]
      simp
    · intro pair hpair
      exact (bne_iff_ne.mp (hafter pair (List.mem_reverse.mp hpair))).symm
  · rintro ⟨before, after, rfl, hafter⟩
    refine ⟨after.reverse, before.reverse, by simp, ?_⟩
    intro pair hpair
    exact bne_iff_ne.mpr (hafter pair (List.mem_reverse.mp hpair)).symm

namespace OptionsFile

open Yaml (Value)

variable {v w key : Value} {way : List Value} {entries : List (Value × Value)} {p text : String}

def isScalar : Value → Bool
  | .string _ | .bool _ | .integer _ | .real _ => true
  | .null | .sequence _ | .mapping _ | .tagged _ _ => false

theorem isSome_text? (v : Value) : (text? v).isSome = isScalar v := by
  cases v <;> rfl

/-! ## Paths -/

/-- The texts of the keys on the way from the root, joined by points. No point comes after a path that is
still empty. -/
def path (way : List Value) : String :=
  ".".intercalate ((way.filterMap text?).dropWhile (· = ""))

theorem path_nil : path [] = "" := rfl

theorem intercalate_ne_empty {sep first : String} (hfirst : first ≠ "") (rest : List String) :
    sep.intercalate (first :: rest) ≠ "" := by
  have happend := @String.intercalate_cons_append sep first "" rest
  rw [String.append_empty] at happend
  rw [happend]
  intro hempty
  exact hfirst (String.append_eq_empty_iff.mp hempty).1

theorem extend_path (hkey : text? key = some text) (way : List Value) :
    extend (path way) text = path (way ++ [key]) := by
  have htexts : (way ++ [key]).filterMap text? = way.filterMap text? ++ [text] := by
    simp [hkey]
  rw [path, path, htexts, List.dropWhile_append]
  cases hdrop : (way.filterMap text?).dropWhile (· = "") with
  | nil =>
    rw [String.intercalate_nil, extend, if_pos rfl, if_pos (List.isEmpty_nil ..)]
    by_cases htext : text = "" <;> simp [htext]
  | cons first rest =>
    have hne : (way.filterMap text?).dropWhile (· = "") ≠ [] := by simp [hdrop]
    have hfirst : first ≠ "" := by
      have hnot := List.head_dropWhile_not (fun t : String => decide (t = "")) hne
      simpa [hdrop] using hnot
    have hjoin := @String.intercalate_append_of_ne_nil (first :: rest) [text] "." (by simp) (by simp)
    rw [extend, if_neg (intercalate_ne_empty hfirst rest), if_neg (by simp), hjoin,
      String.intercalate_singleton]

/-- A key with a point in it leads where two keys do. -/
theorem extend_extend {first : String} (hfirst : first ≠ "") (p second : String) :
    extend (extend p first) second = extend p (first ++ "." ++ second) := by
  unfold extend
  by_cases hp : p = ""
  · rw [if_pos hp, if_neg hfirst, if_pos hp]
  · have hlong : p ++ "." ++ first ≠ "" := fun h => hfirst (String.append_eq_empty_iff.mp h).2
    rw [if_neg hp, if_neg hlong, if_neg hp]
    simp only [String.append_assoc]

/-! ## Items -/

/-- A key of a mapping or a value that is no mapping, with the keys on the way to it from the root. For a
key these lead to its mapping. -/
inductive Item where
  | key (way : List Value) (key : Value)
  | leaf (way : List Value) (value : Value)

namespace Item

/-- What must be a scalar. -/
def node : Item → Value
  | .key _ v | .leaf _ v => v

/-- What is wrong if it is not. -/
def error : Item → Error
  | .key way _ => .invalidKey (path way)
  | .leaf way _ => .invalidValue (path way)

def option? : Item → Option (String × String)
  | .key _ _ => none
  | .leaf way v => (text? v).map (path way, ·)

end Item

mutual

def items (way : List Value) : Value → List Item
  | .mapping entries => entryItems way entries
  | v => [.leaf way v]

def entryItems (way : List Value) : List (Value × Value) → List Item
  | [] => []
  | (key, value) :: entries =>
    .key way key :: (items (way ++ [key]) value ++ entryItems way entries)

end

/-- What comes of items: the error of the first that is no scalar, or else the options that they say. -/
def outcome (items : List Item) : Except Error (List (String × String)) :=
  match items.find? fun item => !isScalar item.node with
  | some item => .error item.error
  | none => .ok (items.filterMap Item.option?)

theorem outcome_append (xs ys : List Item) : outcome (xs ++ ys) = (do
    let first ← outcome xs
    return first ++ (← outcome ys)) := by
  unfold outcome
  rw [List.find?_append, List.filterMap_append]
  cases xs.find? fun item => !isScalar item.node with
  | some item => rfl
  | none =>
    cases ys.find? fun item => !isScalar item.node <;> rfl

theorem outcome_key_of_text (hkey : text? key = some text) (way : List Value) (rest : List Item) :
    outcome (.key way key :: rest) = outcome rest := by
  have hscalar : isScalar key = true := by rw [← isSome_text?, hkey, Option.isSome_some]
  unfold outcome
  rw [List.find?_cons_of_neg (by simp [Item.node, hscalar]), List.filterMap_cons_none rfl]

theorem outcome_key_of_no_text (hkey : text? key = none) (way : List Value) (rest : List Item) :
    outcome (.key way key :: rest) = .error (.invalidKey (path way)) := by
  have hscalar : isScalar key = false := by rw [← isSome_text?, hkey, Option.isSome_none]
  simp [outcome, Item.node, Item.error, hscalar]

theorem entryLeaves_of_no_text (hkey : text? key = none) (p : String) (v : Value)
    (entries : List (Value × Value)) :
    entryLeaves p ((key, v) :: entries) = .error (.invalidKey p) := by
  rw [entryLeaves, hkey]

mutual

theorem leaves_path (way : List Value) : (v : Value) → leaves (path way) v = outcome (items way v)
  | .mapping entries => entryLeaves_path way entries
  | .null => rfl
  | .bool _ => rfl
  | .integer _ => rfl
  | .real _ => rfl
  | .string _ => rfl
  | .sequence _ => rfl
  | .tagged _ _ => rfl

theorem entryLeaves_path (way : List Value) : (entries : List (Value × Value)) →
    entryLeaves (path way) entries = outcome (entryItems way entries)
  | [] => rfl
  | (key, value) :: entries => by
    cases hkey : text? key with
    | none => rw [entryLeaves_of_no_text hkey, entryItems, outcome_key_of_no_text hkey]
    | some text =>
      -- The path of the value is that of the way with the key on it, as the key has a text.
      rw [entryLeaves, entryItems, hkey]
      dsimp only
      rw [extend_path hkey, leaves_path (way ++ [key]) value, entryLeaves_path way entries,
        outcome_key_of_text hkey, outcome_append]

end

theorem outcome_eq_ok_iff {items : List Item} {pairs : List (String × String)} :
    outcome items = .ok pairs ↔
      (∀ item ∈ items, isScalar item.node = true) ∧ items.filterMap Item.option? = pairs := by
  have hnone : (items.find? fun item => !isScalar item.node) = none ↔
      ∀ item ∈ items, isScalar item.node = true := by
    simp [List.find?_eq_none]
  unfold outcome
  rw [← hnone]
  cases items.find? fun item => !isScalar item.node <;> simp

theorem outcome_eq_error_iff {items : List Item} {e : Error} : outcome items = .error e ↔
    ∃ before item after, items = before ++ item :: after ∧
      (∀ good ∈ before, isScalar good.node = true) ∧ isScalar item.node = false ∧ item.error = e := by
  have hsome : ∀ item, (items.find? fun item => !isScalar item.node) = some item ↔
      isScalar item.node = false ∧ ∃ before after, items = before ++ item :: after ∧
        ∀ good ∈ before, isScalar good.node = true := by
    intro item
    simp [List.find?_eq_some_iff_append]
  have herror : outcome items = .error e ↔
      ∃ item, (items.find? fun item => !isScalar item.node) = some item ∧ item.error = e := by
    unfold outcome
    cases items.find? fun item => !isScalar item.node <;> simp
  rw [herror]
  constructor
  · rintro ⟨item, hitem, he⟩
    obtain ⟨hbad, before, after, hitems, hgood⟩ := (hsome item).mp hitem
    exact ⟨before, item, after, hitems, hgood, hbad, he⟩
  · rintro ⟨before, item, after, hitems, hgood, hbad, he⟩
    exact ⟨item, (hsome item).mpr ⟨hbad, before, after, hitems, hgood⟩, he⟩

theorem flatten_mapping (entries : List (Value × Value)) :
    flatten (.mapping entries) = (outcome (items [] (.mapping entries))).map Options.ofPairs := by
  rw [← leaves_path, path_nil, flatten]

theorem flatten_eq_ok_iff {options : Options} : flatten (.mapping entries) = .ok options ↔
    (∀ item ∈ items [] (.mapping entries), isScalar item.node = true) ∧
      .ofPairs ((items [] (.mapping entries)).filterMap Item.option?) = options := by
  rw [flatten_mapping, Outcome.map_eq_ok_iff]
  simp only [outcome_eq_ok_iff, and_assoc, exists_and_left, exists_eq_left']

theorem flatten_eq_error_iff {e : Error} : flatten (.mapping entries) = .error e ↔
    ∃ before item after, items [] (.mapping entries) = before ++ item :: after ∧
      (∀ good ∈ before, isScalar good.node = true) ∧ isScalar item.node = false ∧ item.error = e := by
  rw [← outcome_eq_error_iff, flatten_mapping]
  cases outcome (items [] (.mapping entries)) <;> simp [Except.map]

/-! ## The last leaf at a path -/

def LastAt (items : List Item) (place : String) (v : Value) : Prop :=
  ∃ before way after, items = before ++ .leaf way v :: after ∧ path way = place ∧
    ∀ way' w, .leaf way' w ∈ after → path way' ≠ place

theorem Item.option?_eq_some_iff {item : Item} {place : String} :
    item.option? = some (place, text) ↔
      ∃ way v, item = .leaf way v ∧ path way = place ∧ text? v = some text := by
  cases item with
  | key way v => simp [option?]
  | leaf way v => simp [option?, and_comm]

theorem exists_text? (h : isScalar v = true) : ∃ text, text? v = some text :=
  Option.isSome_iff_exists.mp ((isSome_text? v).trans h)

section Options
variable {all : List Item} {place : String}

theorem mem_options_iff (hall : ∀ item ∈ all, isScalar item.node = true) :
    place ∈ Options.ofPairs (all.filterMap Item.option?) ↔
      ∃ way v, .leaf way v ∈ all ∧ path way = place := by
  rw [Options.ofPairs, Std.TreeMap.mem_ofList, List.contains_iff_mem, List.mem_map]
  constructor
  · rintro ⟨⟨_, text⟩, hpair, rfl⟩
    obtain ⟨item, hitem, hoption⟩ := List.mem_filterMap.mp hpair
    obtain ⟨way, v, rfl, hplace, _⟩ := Item.option?_eq_some_iff.mp hoption
    exact ⟨way, v, hitem, hplace⟩
  · rintro ⟨way, v, hleaf, hplace⟩
    obtain ⟨text, htext⟩ := exists_text? (hall _ hleaf)
    exact ⟨(place, text), List.mem_filterMap.mpr
      ⟨_, hleaf, Item.option?_eq_some_iff.mpr ⟨way, v, rfl, hplace, htext⟩⟩, rfl⟩

theorem getElem?_options_eq_some_iff (hall : ∀ item ∈ all, isScalar item.node = true) :
    (Options.ofPairs (all.filterMap Item.option?))[place]? = some text ↔
      ∃ v, LastAt all place v ∧ text? v = some text := by
  rw [Options.getElem?_ofPairs_eq_some_iff]
  constructor
  · rintro ⟨earlier, later, hpairs, hlater⟩
    obtain ⟨before, rest, rfl, _, hrest⟩ := List.filterMap_eq_append_iff.mp hpairs
    obtain ⟨skipped, item, after, rfl, _, hitem, rfl⟩ := List.filterMap_eq_cons_iff.mp hrest
    obtain ⟨way, v, rfl, hplace, htext⟩ := Item.option?_eq_some_iff.mp hitem
    refine ⟨v, ⟨before ++ skipped, way, after, by simp, hplace, ?_⟩, htext⟩
    intro way' w hmem
    obtain ⟨text', htext'⟩ := exists_text? (hall (.leaf way' w) (by simp [hmem]))
    exact hlater (path way', text') (List.mem_filterMap.mpr
      ⟨_, hmem, Item.option?_eq_some_iff.mpr ⟨way', w, rfl, rfl, htext'⟩⟩)
  · rintro ⟨v, ⟨before, way, after, rfl, hplace, hafter⟩, htext⟩
    have hitem : (Item.leaf way v).option? = some (place, text) :=
      Item.option?_eq_some_iff.mpr ⟨way, v, rfl, hplace, htext⟩
    refine ⟨before.filterMap Item.option?, after.filterMap Item.option?, ?_, ?_⟩
    · rw [List.filterMap_append, List.filterMap_cons_some hitem]
    · rintro ⟨place', text'⟩ hpair
      obtain ⟨item, hmem, hoption⟩ := List.mem_filterMap.mp hpair
      obtain ⟨way', w, rfl, hplace', _⟩ := Item.option?_eq_some_iff.mp hoption
      exact hplace' ▸ hafter way' w hmem

end Options

/-! ## Ways to write the same -/

/-- The second tree is the first with one scalar written as a string, or with one entry, whose key has a
point in it, written as an entry of a mapping of its own. -/
inductive Restates : Value → Value → Prop
  | leaf {v : Value} {text : String} (htext : text? v = some text) : Restates v (.string text)
  | nest (before after : List (Value × Value)) (v : Value) {key first second : Value} {a b : String}
      (ha : a ≠ "") (hkey : text? key = some (a ++ "." ++ b)) (hfirst : text? first = some a)
      (hsecond : text? second = some b) :
      Restates (.mapping (before ++ (key, v) :: after))
        (.mapping (before ++ (first, .mapping [(second, v)]) :: after))
  | within (before after : List (Value × Value)) (key : Value) {v w : Value} (h : Restates v w) :
      Restates (.mapping (before ++ (key, v) :: after)) (.mapping (before ++ (key, w) :: after))

theorem leaves_of_text (htext : text? v = some text) (p : String) :
    leaves p v = .ok [(p, text)] := by
  cases v <;> simp [text?] at htext <;> simp [leaves, text?, htext]

theorem entryLeaves_append (p : String) (xs ys : List (Value × Value)) :
    entryLeaves p (xs ++ ys) = (do
      let first ← entryLeaves p xs
      return first ++ (← entryLeaves p ys)) := by
  induction xs with
  | nil => exact (bind_pure _).symm
  | cons entry xs ih =>
    obtain ⟨key, v⟩ := entry
    rw [List.cons_append, entryLeaves, entryLeaves, ih]
    cases text? key with
    | none => rfl
    | some text =>
      dsimp only
      cases leaves (extend p text) v with
      | error e => rfl
      | ok first =>
        cases entryLeaves p xs with
        | error e => rfl
        | ok middle =>
          cases entryLeaves p ys with
          | error e => rfl
          | ok last => exact congrArg Except.ok (List.append_assoc first middle last).symm

theorem entryLeaves_singleton (hkey : text? key = some text) (p : String) (v : Value) :
    entryLeaves p [(key, v)] = leaves (extend p text) v := by
  rw [entryLeaves, hkey]
  dsimp only
  cases leaves (extend p text) v with
  | error e => rfl
  | ok pairs => exact congrArg Except.ok (List.append_nil pairs)

theorem leaves_mapping_congr {entry entry' : Value × Value}
    (h : entryLeaves p [entry] = entryLeaves p [entry']) (before after : List (Value × Value)) :
    leaves p (.mapping (before ++ entry :: after)) =
      leaves p (.mapping (before ++ entry' :: after)) := by
  rw [leaves, leaves, entryLeaves_append, entryLeaves_append, ← List.singleton_append,
    entryLeaves_append p [entry], h, ← entryLeaves_append, List.singleton_append]

theorem Restates.leaves_eq (h : Restates v w) (p : String) : leaves p v = leaves p w := by
  -- An entry has one key more after it was nested, so the leaves agree though the items do not.
  induction h generalizing p with
  | leaf htext => rw [leaves_of_text htext, leaves_of_text rfl]
  | nest before after v ha hkey hfirst hsecond =>
    apply leaves_mapping_congr
    rw [entryLeaves_singleton hkey, entryLeaves_singleton hfirst, leaves,
      entryLeaves_singleton hsecond, extend_extend ha]
  | within before after key h ih =>
    apply leaves_mapping_congr
    cases hkey : text? key with
    | none => rw [entryLeaves_of_no_text hkey, entryLeaves_of_no_text hkey]
    | some text => rw [entryLeaves_singleton hkey, entryLeaves_singleton hkey, ih]

theorem Restates.flatten_eq (h : Restates v w) : flatten v = flatten w := by
  have hleaves := h.leaves_eq ""
  cases h with
  | leaf htext => cases v <;> simp [text?] at htext <;> rfl
  | nest => rw [flatten, flatten, hleaves]
  | within => rw [flatten, flatten, hleaves]

theorem flatten_eq_of_eqvGen (h : Relation.EqvGen Restates v w) : flatten v = flatten w := by
  induction h with
  | rel v w h => exact h.flatten_eq
  | refl v => rfl
  | symm v w _ ih => exact ih.symm
  | trans u v w _ _ ih ih' => exact ih.trans ih'

/-- A tree says one option for the path of each leaf, with the text of the last leaf at that path, if all
keys and leaves are texts. Otherwise the first that is none is to blame. Trees that restate each other say
the same. -/
theorem flatten_says_every_leaf (entries : List (Value × Value)) :
    ((∃ options, flatten (.mapping entries) = .ok options) ↔
      ∀ item ∈ items [] (.mapping entries), isScalar item.node = true) ∧
    (∀ options, flatten (.mapping entries) = .ok options → ∀ place : String,
      (place ∈ options ↔
        ∃ way v, .leaf way v ∈ items [] (.mapping entries) ∧ path way = place) ∧
      ∀ text, options[place]? = some text ↔
        ∃ v, LastAt (items [] (.mapping entries)) place v ∧ text? v = some text) ∧
    (∀ e, flatten (.mapping entries) = .error e → ∃ before item after,
      items [] (.mapping entries) = before ++ item :: after ∧
        (∀ good ∈ before, isScalar good.node = true) ∧ isScalar item.node = false ∧
        item.error = e) ∧
    ∀ v, Relation.EqvGen Restates (.mapping entries) v → flatten v = flatten (.mapping entries) := by
  refine ⟨⟨?_, ?_⟩, ?_, fun e => flatten_eq_error_iff.mp, fun v h => (flatten_eq_of_eqvGen h).symm⟩
  · rintro ⟨options, hok⟩
    exact (flatten_eq_ok_iff.mp hok).1
  · intro hall
    exact ⟨_, flatten_eq_ok_iff.mpr ⟨hall, rfl⟩⟩
  · intro options hok place
    obtain ⟨hall, rfl⟩ := flatten_eq_ok_iff.mp hok
    exact ⟨mem_options_iff hall, fun text => getElem?_options_eq_some_iff hall⟩

/-- Two entries lead to one leaf, and one key is empty. -/
def mixedLayout : List (Value × Value) :=
  [(.string "a", .mapping [(.string "b", .integer 1)]), (.string "a.b", .bool true),
    (.string "", .mapping [(.string "c", .string "x")])]

theorem flatten_says_every_leaf_of_mixedLayout :
    ∃ options, flatten (.mapping mixedLayout) = .ok options ∧ "c" ∈ options ∧
      options["a.b"]? = some "true" ∧
      flatten (.mapping [(.string "a", .mapping [(.string "b", .integer 1)]),
        (.string "a", .mapping [(.string "b", .string "true")]),
        (.string "", .mapping [(.string "c", .string "x")])]) = .ok options := by
  obtain ⟨hok, hoption, _, hrestate⟩ := flatten_says_every_leaf mixedLayout
  obtain ⟨options, hoptions⟩ := hok.mpr (by decide)
  refine ⟨options, hoptions, ?_, ?_, ?_⟩
  · exact (hoption options hoptions "c").1.mpr
      ⟨[.string "", .string "c"], .string "x", by simp [mixedLayout, items, entryItems], rfl⟩
  · refine ((hoption options hoptions "a.b").2 "true").mpr ⟨.bool true, ?_, rfl⟩
    refine ⟨[.key [] (.string "a"), .key [.string "a"] (.string "b"),
        .leaf [.string "a", .string "b"] (.integer 1), .key [] (.string "a.b")], [.string "a.b"],
      [.key [] (.string ""), .key [.string ""] (.string "c"),
        .leaf [.string "", .string "c"] (.string "x")], rfl, rfl, ?_⟩
    intro way w hleaf
    simp only [List.mem_cons, reduceCtorEq, Item.leaf.injEq, List.not_mem_nil, or_false,
      false_or] at hleaf
    obtain ⟨rfl, rfl⟩ := hleaf
    decide
  · have hkey : text? (.string "a.b") = some ("a" ++ "." ++ "b") := rfl
    have hnested := Restates.nest
      [(.string "a", .mapping [(.string "b", .integer 1)])]
      [(.string "", .mapping [(.string "c", .string "x")])]
      (.bool true) (by decide : "a" ≠ "") hkey (rfl : text? (.string "a") = _)
      (rfl : text? (.string "b") = _)
    have hwritten : Restates (.bool true) (.string "true") := .leaf rfl
    exact (hrestate _ (.trans _ _ _ (.rel _ _ hnested)
      (.rel _ _ (.within [_] [_] _ (.within [] [] _ hwritten))))).trans hoptions

/-- A list below `a.b`, and a key after it that is no text either. -/
example : flatten (.mapping [(.string "a", .mapping [(.string "b", .sequence []),
    (.null, .integer 1)])]) = .error (.invalidValue "a.b") := by rfl

end OptionsFile
end Checkpointing
