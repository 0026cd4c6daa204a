import Checkpointing.Proofs.Options.Batch

/-!
# Merged batches

Batches that are accepted one after the other act as the single batch in which the last value for
each key stands. This follows from what an accepted batch does, which does not mention any order: the
settings on the way occur in neither side.
-/

namespace Checkpointing
set_option autoImplicit false

namespace Options
variable {options first second : Options} {key : String}

theorem foldl_insert (options : Options) (pairs : List (String × String)) :
    pairs.foldl (fun o pair => o.insert pair.1 pair.2) options = options.insertMany pairs := by
  induction pairs generalizing options with
  | nil => rfl
  | cons pair pairs ih =>
    rw [List.foldl_cons, ih, Std.TreeMap.insertMany_cons]

/-- The second batch wins where both have a key. -/
theorem getElem?_merge (first second : Options) (key : String) :
    (first.merge second)[key]? = second[key]?.or first[key]? := by
  have hmerge : first.merge second = first.insertMany second.toList := by
    rw [merge, Std.TreeMap.foldl_eq_foldl_toList, foldl_insert]
  rw [hmerge]
  cases hkey : second[key]? with
  | some value =>
    apply Std.TreeMap.getElem?_insertMany_list_of_mem Std.ReflCmp.compare_self
    · exact Std.TreeMap.distinct_keys_toList
    · exact Std.TreeMap.mem_toList_iff_getElem?_eq_some.mpr hkey
  | none =>
    apply Std.TreeMap.getElem?_insertMany_list_of_contains_eq_false
    rw [Bool.eq_false_iff, ne_eq, List.contains_iff_mem]
    intro hmem
    obtain ⟨pair, hpair, rfl⟩ := List.mem_map.mp hmem
    rw [Std.TreeMap.mem_toList_iff_getElem?_eq_some.mp hpair] at hkey
    exact absurd hkey (by simp)

theorem lookup_merge (first second : Options) (s : Setting) :
    (first.merge second).lookup s = (second.lookup s).or (first.lookup s) :=
  getElem?_merge first second s.key

theorem lookup_emptyc_merge (options : Options) (s : Setting) :
    ((∅ : Options).merge options).lookup s = options.lookup s := by
  have hempty : (∅ : Options).lookup s = none := Std.TreeMap.getElem?_emptyc
  rw [lookup_merge, hempty, Option.or_none]

def mergeAll (batches : List Options) : Options := batches.foldl merge ∅

theorem getElem?_foldl_merge (batches : List Options) (options : Options) (key : String) :
    (batches.foldl merge options)[key]? =
      (batches.reverse.findSome? (·[key]?)).or options[key]? := by
  induction batches generalizing options with
  | nil => rfl
  | cons batch batches ih =>
    rw [List.foldl_cons, ih, getElem?_merge, List.reverse_cons, List.findSome?_append,
      List.findSome?_singleton, Option.or_assoc]

/-- The last batch that has a key gives its value. -/
theorem getElem?_mergeAll (batches : List Options) (key : String) :
    (mergeAll batches)[key]? = batches.reverse.findSome? (·[key]?) := by
  have hempty : (∅ : Options)[key]? = none := Std.TreeMap.getElem?_emptyc
  rw [mergeAll, getElem?_foldl_merge, hempty, Option.or_none]

def single (option : String × String) : Options := .ofPairs [option]

theorem getElem?_single (option : String × String) (key : String) :
    (single option)[key]? = if option.1 = key then some option.2 else none := by
  have hsingle : single option = (∅ : Options).insert option.1 option.2 :=
    Std.TreeMap.ofList_singleton
  have hempty : (∅ : Options)[key]? = none := Std.TreeMap.getElem?_emptyc
  rw [hsingle, Std.TreeMap.getElem?_insert, hempty]
  simp only [Std.LawfulEqCmp.compare_eq_iff_eq]

/-- The options of a batch one by one, in any order, make the batch. -/
theorem getElem?_mergeAll_single {order : List (String × String)}
    (horder : order.Perm options.toList) (key : String) :
    (mergeAll (order.map single))[key]? = options[key]? := by
  rw [getElem?_mergeAll]
  have hmem : ∀ value, (key, value) ∈ order ↔ options[key]? = some value := by
    intro value
    rw [horder.mem_iff, Std.TreeMap.mem_toList_iff_getElem?_eq_some]
  cases hfound : (order.map single).reverse.findSome? (·[key]?) with
  | none =>
    symm
    rw [Option.eq_none_iff_forall_ne_some]
    intro value hvalue
    have hpair := (hmem value).mpr hvalue
    have hnone := List.findSome?_eq_none_iff.mp hfound (single (key, value))
      (List.mem_reverse.mpr (List.mem_map_of_mem hpair))
    rw [getElem?_single, if_pos rfl] at hnone
    exact absurd hnone (by simp)
  | some value =>
    obtain ⟨batch, hbatch, hvalue⟩ := List.exists_of_findSome?_eq_some hfound
    obtain ⟨option, hoption, rfl⟩ := List.mem_map.mp (List.mem_reverse.mp hbatch)
    rw [getElem?_single] at hvalue
    split at hvalue
    · rename_i hkey
      obtain rfl := Option.some.inj hvalue
      exact ((hmem option.2).mp (hkey ▸ hoption)).symm
    · exact absurd hvalue (by simp)

end Options

namespace Config
variable {c d t : Config} {first second options : Options}

def configureAll (batches : List Options) (c : Config) : Traced (Failure Rejection) Config :=
  batches.foldlM (fun c options => c.configure options) c

theorem Replaces.refl (c : Config) : Replaces ∅ c c where
  given := by
    intro s value hvalue
    have hempty : (∅ : Options).lookup s = none := Std.TreeMap.getElem?_emptyc
    rw [hempty] at hvalue
    exact absurd hvalue (by simp)
  kept := fun _ _ => rfl

/-- What one batch does and then another is what both do together. -/
theorem Replaces.trans (hfirst : Replaces first c d) (hsecond : Replaces second d t) :
    Replaces (first.merge second) c t where
  given := by
    intro s value hvalue
    rw [Options.lookup_merge] at hvalue
    cases hs : second.lookup s with
    | some later =>
      rw [hs, Option.some_or] at hvalue
      obtain rfl := Option.some.inj hvalue
      exact hsecond.given s later hs
    | none =>
      rw [hs, Option.none_or] at hvalue
      rw [hsecond.kept s hs]
      exact hfirst.given s value hvalue
  kept := by
    intro s hs
    rw [Options.lookup_merge, Option.or_eq_none_iff] at hs
    rw [hsecond.kept s hs.1]
    exact hfirst.kept s hs.2

theorem Replaces.congr {options' : Options} (h : Replaces options c t)
    (hlookup : ∀ s, options'.lookup s = options.lookup s) : Replaces options' c t where
  given := fun s value hvalue => h.given s value (hlookup s ▸ hvalue)
  kept := fun s hs => h.kept s (hlookup s ▸ hs)

theorem Replaces.configureAll {batches : List Options} (hc : d.Coherent)
    (h : Replaces options c d) (hrun : (Config.configureAll batches d).outcome = .ok t) :
    Replaces (batches.foldl Options.merge options) c t ∧ t.Coherent := by
  induction batches generalizing options d with
  | nil =>
    obtain rfl := Except.ok.inj hrun
    exact ⟨h, hc⟩
  | cons batch batches ih =>
    rw [Config.configureAll, List.foldlM_cons, Traced.outcome_bind_eq_ok_iff] at hrun
    obtain ⟨e, he, hrun⟩ := hrun
    exact ih (hc.configure he) (h.trans (replaces_of_outcome_configure he)) hrun

/-- A batch has its effect by the options of settings alone. -/
theorem outcome_configure_congr {options' : Options}
    (hlookup : ∀ s, options.lookup s = options'.lookup s) (c : Config) :
    (c.configure options).outcome = (c.configure options').outcome := by
  have hrelease : Config.releaseUnaligned options c = Config.releaseUnaligned options' c := by
    rw [Config.releaseUnaligned, Config.releaseUnaligned, hlookup]
  have happly : Config.applyOption options = Config.applyOption options' := by
    funext d s
    rw [Config.applyOption, Config.applyOption, hlookup]
  rw [configure, configure, hrelease, happly]
  simp only [Traced.bind_eq, Traced.outcome_andThen, Traced.outcome_log]

/-- Batches that are accepted one after the other are accepted as one, with the same result; and so
the options of one batch give that result in any order in which they are accepted one by one. -/
theorem configure_mergeAll (c : Config) (hc : c.Coherent) :
    (∀ (batches : List Options) (key : String),
      (Options.mergeAll batches)[key]? = batches.reverse.findSome? (·[key]?)) ∧
    (∀ (batches : List Options) (t : Config), (c.configureAll batches).outcome = .ok t →
      (c.configure (.mergeAll batches)).outcome = .ok t) ∧
    ∀ (options : Options) (order order' : List (String × String)) (t t' : Config),
      order.Perm options.toList → order'.Perm options.toList →
      (c.configureAll (order.map .single)).outcome = .ok t →
      (c.configureAll (order'.map .single)).outcome = .ok t' →
      t = t' ∧ (c.configure options).outcome = .ok t := by
  have hmerged : ∀ {batches : List Options} {t : Config}, (c.configureAll batches).outcome = .ok t →
      Replaces (.mergeAll batches) c t ∧ t.Coherent :=
    fun hrun => (Replaces.refl c).configureAll hc hrun
  refine ⟨Options.getElem?_mergeAll, ?_, ?_⟩
  · intro batches t hrun
    obtain ⟨hrep, ht⟩ := hmerged hrun
    exact hrep.outcome_configure ht
  · intro options order order' t t' horder horder' hrun hrun'
    have hwhole : ∀ {order : List (String × String)} {t : Config}, order.Perm options.toList →
        (c.configureAll (order.map .single)).outcome = .ok t →
        (c.configure options).outcome = .ok t := by
      intro order t horder hrun
      obtain ⟨hrep, ht⟩ := hmerged hrun
      apply (hrep.congr _).outcome_configure ht
      intro s
      exact (Options.getElem?_mergeAll_single horder s.key).symm
    have ht := hwhole horder hrun
    have ht' := hwhole horder' hrun'
    exact ⟨Except.ok.inj (ht.symm.trans ht'), ht⟩

theorem configure_mergeAll_through_alignment :
    ({ default with unaligned := true } : Config).Coherent ∧
      (configure
        (.mergeAll
          [.ofPairs [("execution.checkpointing.unaligned", "false")],
           .ofPairs [("execution.checkpointing.mode", "at-least-once")],
           .ofPairs [("execution.checkpointing.mode", "EXACTLY_ONCE"),
             ("execution.checkpointing.unaligned", " TRUE ")]])
        { default with unaligned := true }).outcome =
          .ok { default with unaligned := true } :=
  ⟨by decide, (configure_mergeAll _ (by decide)).2.1 _ _ rfl⟩

end Config
end Checkpointing
