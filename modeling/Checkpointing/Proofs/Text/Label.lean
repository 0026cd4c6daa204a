import Checkpointing.Proofs.Options.Denotation

/-!
# Labels

A text is read as a mode or as a retention exactly when the name stands in it between blanks, letter by
letter: an ASCII letter may have either case there, a hyphen may stand for an underscore, and no other
character may be put in, left out or replaced.
-/

namespace Checkpointing
set_option autoImplicit false

namespace Text
variable {c d : Char} {before word after cs : List Char}

theorem exists_trimChars (cs : List Char) : ∃ before after : List Char,
    cs = before ++ trimChars cs ++ after ∧ (∀ c ∈ before, isBlank c = true) ∧
      ∀ c ∈ after, isBlank c = true := by
  let rest := (cs.dropWhile isBlank).reverse
  refine ⟨cs.takeWhile isBlank, (rest.takeWhile isBlank).reverse, ?_, ?_, ?_⟩
  · have hrest : trimChars cs ++ (rest.takeWhile isBlank).reverse = cs.dropWhile isBlank := by
      rw [trimChars, ← List.reverse_append, List.takeWhile_append_dropWhile, List.reverse_reverse]
    rw [List.append_assoc, hrest, List.takeWhile_append_dropWhile]
  · exact fun c hc => List.mem_takeWhile_imp hc
  · exact fun c hc => List.mem_takeWhile_imp (List.mem_reverse.mp hc)

theorem dropWhile_isBlank (hbefore : ∀ c ∈ before, isBlank c = true)
    (hcs : ∀ c ∈ cs.head?, isBlank c = false) : (before ++ cs).dropWhile isBlank = cs := by
  rw [List.dropWhile_append_of_pos hbefore]
  cases cs with
  | nil => rfl
  | cons c cs => exact List.dropWhile_cons_of_neg (by simp [hcs c rfl])

theorem trimChars_append (hbefore : ∀ c ∈ before, isBlank c = true)
    (hword : ∀ c ∈ word, isBlank c = false) (hafter : ∀ c ∈ after, isBlank c = true) :
    trimChars (before ++ word ++ after) = word := by
  cases word with
  | nil =>
    have hblank : ∀ c ∈ before ++ [] ++ after, isBlank c = true := by
      intro c hc
      rw [List.append_nil, List.mem_append] at hc
      exact hc.elim (hbefore c) (hafter c)
    rw [trimChars, List.dropWhile_eq_nil_iff.mpr hblank]
    rfl
  | cons c word =>
    have hhead : ∀ d ∈ (c :: word ++ after).head?, isBlank d = false := by
      intro d hd
      obtain rfl := Option.some.inj hd
      exact hword c List.mem_cons_self
    have hlast : ∀ d ∈ (c :: word).reverse.head?, isBlank d = false := by
      intro d hd
      exact hword d (List.mem_reverse.mp (List.mem_of_mem_head? hd))
    rw [trimChars, List.append_assoc, dropWhile_isBlank hbefore hhead, List.reverse_append,
      dropWhile_isBlank (by simpa using hafter) hlast, List.reverse_reverse]

/-- The same character, or the same ASCII letter in the other case. -/
def SameLetter (c d : Char) : Prop :=
  c = d ∨ ('A' ≤ c ∧ c ≤ 'Z' ∧ d.toNat = c.toNat + 32) ∨
    ('A' ≤ d ∧ d ≤ 'Z' ∧ c.toNat = d.toNat + 32)

/-- Characters that labels do not tell apart. -/
def Alike (c d : Char) : Prop := SameLetter c d ∨ (c = '-' ∨ c = '_') ∧ (d = '-' ∨ d = '_')

def IsLabelOf (text name : String) : Prop := ∃ before word after : List Char,
  text.toList = before ++ word ++ after ∧ (∀ c ∈ before, isBlank c = true) ∧
    (∀ c ∈ after, isBlank c = true) ∧ List.Forall₂ Alike word name.toList

theorem toNat_toUpper (c : Char) : c.toUpper.toNat =
    if 97 ≤ c.toNat ∧ c.toNat ≤ 122 then c.toNat - 32 else c.toNat := by
  have hlower : 'a'.val ≤ c.val ∧ c.val ≤ 'z'.val ↔ 97 ≤ c.toNat ∧ c.toNat ≤ 122 := Iff.rfl
  unfold Char.toUpper
  split
  · rename_i h
    obtain ⟨hlow, hhigh⟩ := hlower.mp h
    rw [if_pos ⟨hlow, hhigh⟩]
    -- the distance of the cases is subtracted by adding its complement
    have hshift : 'A'.val - 'a'.val = 4294967264 := rfl
    have hlt : c.toNat < 2 ^ 32 := c.val.toNat_lt
    change (c.val + ('A'.val - 'a'.val)).toNat = _
    rw [hshift, UInt32.toNat_add]
    change (c.toNat + 4294967264) % 2 ^ 32 = _
    omega
  · rename_i h
    rw [if_neg fun hc => h (hlower.mpr hc)]

theorem toNat_labelChar (c : Char) : (labelChar c).toNat =
    if c.toNat = 45 then 95
    else if 97 ≤ c.toNat ∧ c.toNat ≤ 122 then c.toNat - 32 else c.toNat := by
  have hhyphen : c = '-' ↔ c.toNat = 45 := Char.toNat_inj.symm
  rw [labelChar, apply_ite Char.toNat, toNat_toUpper]
  simp only [hhyphen]
  rfl

theorem labelChar_eq_iff : labelChar c = labelChar d ↔ Alike c d := by
  have hle : ∀ {a b : Char}, a ≤ b ↔ a.toNat ≤ b.toNat := Iff.rfl
  have hhyphen : '-'.toNat = 45 := rfl
  have hunderscore : '_'.toNat = 95 := rfl
  have hfirst : 'A'.toNat = 65 := rfl
  have hlast : 'Z'.toNat = 90 := rfl
  simp only [Alike, SameLetter, ← Char.toNat_inj, hle, toNat_labelChar, hhyphen, hunderscore,
    hfirst, hlast]
  grind

theorem labelChar_of_isBlank (h : isBlank c = true) : labelChar c = c := by
  simp only [isBlank, Bool.or_eq_true, Bool.and_eq_true, decide_eq_true_eq, beq_iff_eq] at h
  rw [← Char.toNat_inj, toNat_labelChar, if_neg (by omega), if_neg (by omega)]

theorem map_labelChar_eq_iff {name : List Char} (hname : ∀ c ∈ name, labelChar c = c) :
    word.map labelChar = name ↔ List.Forall₂ Alike word name := by
  induction name generalizing word with
  | nil => simp
  | cons d name ih =>
    cases word with
    | nil => simp
    | cons c word =>
      have hd := hname d List.mem_cons_self
      have hrest := @ih word fun c hc => hname c (List.mem_cons_of_mem d hc)
      rw [List.map_cons, List.cons.injEq, List.forall₂_cons, ← labelChar_eq_iff, hd, hrest]

theorem label_eq_iff {text name : String} (hname : IsCanonical name) :
    label text = name ↔ IsLabelOf text name := by
  have hspelled := fun word => @map_labelChar_eq_iff word _ fun c hc => (hname c hc).1
  rw [← String.toList_inj, toList_label]
  constructor
  · intro hlabel
    obtain ⟨before, after, htext, hbefore, hafter⟩ := exists_trimChars text.toList
    exact ⟨before, _, after, htext, hbefore, hafter, (hspelled _).mp hlabel⟩
  · intro ⟨before, word, after, htext, hbefore, hafter, halike⟩
    have hword : word.map labelChar = name.toList := (hspelled word).mpr halike
    -- a blank would still be one in the name
    have hinner : ∀ c ∈ word, isBlank c = false := by
      intro c hc
      have hmem : labelChar c ∈ name.toList := hword ▸ List.mem_map_of_mem hc
      have hnot := (hname _ hmem).2
      cases hblank : isBlank c with
      | false => rfl
      | true =>
        rw [labelChar_of_isBlank hblank, hblank] at hnot
        exact hnot
    rw [htext, trimChars_append hbefore hinner hafter, hword]

end Text

/-- Texts are read as the values of an enumeration exactly by the names of these. -/
structure Recognises {α : Type} (name : α → String) (read : String → Except Rejection α)
    (unknown : String → Rejection) : Prop where
  accepted : ∀ text a, read text = .ok a ↔ Text.IsLabelOf text (name a)
  refused : ∀ text, (∀ a, ¬Text.IsLabelOf text (name a)) → read text = .error (unknown text)
  unique : ∀ text a b, Text.IsLabelOf text (name a) → Text.IsLabelOf text (name b) → a = b
  displayed : ∀ a, read (name a) = .ok a

theorem Naming.recognises {α : Type} (naming : Naming α) (unknown : String → Rejection) :
    Recognises naming.name (Options.readLabel naming unknown) unknown := by
  have haccepted : ∀ text a, Options.readLabel naming unknown text = .ok a ↔
      Text.IsLabelOf text (naming.name a) :=
    fun text a => Options.readLabel_eq_ok_iff.trans (Text.label_eq_iff (naming.isCanonical_name a))
  refine ⟨haccepted, ?_, ?_, ?_⟩
  · intro text hnone
    cases hread : Options.readLabel naming unknown text with
    | ok a => exact absurd ((haccepted text a).mp hread) (hnone a)
    | error cause => rw [Options.readLabel_eq_error hread]
  · intro text a b ha hb
    have hread := (haccepted text a).mpr ha
    exact Except.ok.inj (hread.symm.trans ((haccepted text b).mpr hb))
  · intro a
    apply (haccepted (naming.name a) a).mpr
    refine ⟨[], (naming.name a).toList, [], by simp, nofun, nofun, ?_⟩
    exact List.forall₂_same.mpr fun c _ => Or.inl (Or.inl rfl)

/-- Modes and retentions are read by their names alone. -/
theorem labels_are_recognised_exactly :
    Recognises Mode.name Options.readMode .unknownMode ∧
      Recognises Retention.name Options.readRetention .unknownRetention := by
  constructor
  · exact Mode.naming.recognises .unknownMode
  · exact Retention.naming.recognises .unknownRetention

/-- The long s is a small letter of S, but not in ASCII. -/
example : Options.readMode "at-lea\u017ft-once" = .error (.unknownMode "at-lea\u017ft-once") := by
  decide

end Checkpointing
