import Checkpointing.Json.Basic
import Checkpointing.Json.Scalar
import Checkpointing.Proofs.Numeral

/-!
# Printed values read back

A value in JSON text is read after any blanks and before anything that may follow a value. What was
printed reads as itself: whole numbers within 64 bits, flags and null.
-/

namespace Checkpointing.Json
set_option autoImplicit false

def Blank (cs : List Char) : Prop := ∀ c ∈ cs, isSpace c = true

/-- What may follow a value inside or after an object. -/
def Stops (rest : List Char) : Prop := ∀ c ∈ rest.head?, c = ',' ∨ c = '\x7d' ∨ isSpace c = true

def Reads {α : Type} (read : List Char → Except Error (α × List Char)) (text : List Char) (a : α) :
    Prop :=
  ∀ blanks rest, Blank blanks → Stops rest → read (blanks ++ (text ++ rest)) = .ok (a, rest)

theorem blank_nil : Blank [] := nofun

theorem skipSpace_append {blanks cs : List Char} (h : Blank blanks) :
    skipSpace (blanks ++ cs) = skipSpace cs := by
  unfold skipSpace
  exact List.dropWhile_append_of_pos h

theorem skipSpace_cons {blanks cs : List Char} {c : Char} (h : Blank blanks)
    (hc : isSpace c = false) : skipSpace (blanks ++ c :: cs) = c :: cs := by
  rw [skipSpace_append h, skipSpace, List.dropWhile_cons_of_neg (by simp [hc])]

theorem literal_append (ws rest : List Char) : literal ws (ws ++ rest) = .ok rest := by
  induction ws with
  | nil => rfl
  | cons w ws ih => rw [List.cons_append, literal, if_pos rfl, ih]

theorem Reads.map {α β : Type} {read : List Char → Except Error (α × List Char)} {text : List Char}
    {a : α} (h : Reads read text a) (f : α → β) :
    Reads (fun cs => (read cs).map fun (a, rest) => (f a, rest)) text (f a) := by
  intro blanks rest hblanks hrest
  dsimp only
  rw [h blanks rest hblanks hrest]
  rfl

section Printed
variable {style : Style} {depth : Nat}

@[simp] theorem chars_null : chars style depth .null = "null".toList := rfl

@[simp] theorem chars_bool (b : Bool) : chars style depth (.bool b) = (toString b).toList := rfl

@[simp] theorem chars_number (n : Int) : chars style depth (.number n) = (toString n).toList := rfl

@[simp] theorem chars_string (s : String) : chars style depth (.string s) = stringChars s := rfl

end Printed

/-! ## Numbers -/

theorem Stops.digit?_eq_none {c : Char} {rest : List Char} (h : Stops (c :: rest)) :
    Numeral.digit? c = none ∧ c ≠ '.' ∧ c ≠ 'e' ∧ c ≠ 'E' := by
  have hspace : ∀ {c}, isSpace c = true → Numeral.digit? c = none ∧ c ≠ '.' ∧ c ≠ 'e' ∧ c ≠ 'E' := by
    intro c hc
    simp only [isSpace, Bool.or_eq_true, beq_iff_eq] at hc
    rcases hc with ((rfl | rfl) | rfl) | rfl <;> decide
  rcases h c rfl with rfl | rfl | hc
  · decide
  · decide
  · exact hspace hc

theorem isSpace_of_isDigit {c : Char} (hc : c.isDigit = true) : isSpace c = false := by
  rw [Bool.eq_false_iff]
  intro hspace
  simp only [isSpace, Bool.or_eq_true, beq_iff_eq] at hspace
  rcases hspace with ((rfl | rfl) | rfl) | rfl <;> exact absurd hc (by decide)

def Whole (negative : Bool) (n : Nat) : Prop := negative = true → n ≠ 0 ∧ n ≤ 2 ^ 63

def signed (negative : Bool) (n : Nat) : Int := if negative then -n else n

namespace Number
variable {negative : Bool} {n : Nat} {rest : List Char}

theorem afterWhole_eq_ok (hn : Whole negative n) (hrest : Stops rest) :
    afterWhole negative n rest = .ok (.integer (signed negative n), rest) := by
  unfold afterWhole
  split
  · exact absurd rfl hrest.digit?_eq_none.2.1
  · exact absurd rfl hrest.digit?_eq_none.2.2.1
  · exact absurd rfl hrest.digit?_eq_none.2.2.2
  · cases negative with
    | false => rfl
    | true =>
      obtain ⟨hzero, hle⟩ := hn rfl
      rw [if_neg (by simp), if_neg (by omega)]
      rfl

theorem wholePart_of_stops (hrest : Stops rest) :
    wholePart negative n rest = afterWhole negative n rest := by
  cases rest with
  | nil => rfl
  | cons c cs => simp only [wholePart, hrest.digit?_eq_none.1]

theorem wholePart_append {ds : List Char} (hds : ∀ c ∈ ds, c.isDigit = true)
    (hlt : Nat.ofDigitChars 10 ds n < 2 ^ 64) (hrest : Stops rest) :
    wholePart negative n (ds ++ rest) = afterWhole negative (Nat.ofDigitChars 10 ds n) rest := by
  induction ds generalizing n with
  | nil => exact wholePart_of_stops hrest
  | cons c ds ih =>
    rw [Nat.ofDigitChars_cons] at hlt ⊢
    have hle := Numeral.le_ofDigitChars ds (10 * n + (c.toNat - '0'.toNat))
    have hfits : n * 10 + (c.toNat - '0'.toNat) < 0x10000000000000000 := by omega
    simp only [List.cons_append, wholePart, Numeral.digit?_of_isDigit (hds c List.mem_cons_self)]
    rw [if_pos hfits, Nat.mul_comm n 10]
    exact ih (fun c hc => hds c (List.mem_cons_of_mem _ hc)) hlt

theorem head_toDigits_ne_zero {n : Nat} (hn : n ≠ 0) {c : Char} {ds : List Char}
    (h : Nat.toDigits 10 n = c :: ds) : c ≠ '0' := by
  induction n using Nat.strongRecOn generalizing ds with
  | ind n ih =>
    by_cases hlt : n < 10
    · rw [Nat.toDigits_of_lt_base hlt] at h
      obtain ⟨rfl, _⟩ := List.cons.inj h
      have hdigit : ∀ m < 10, m ≠ 0 → Nat.digitChar m ≠ '0' := by decide
      exact hdigit n hlt hn
    · rw [Nat.toDigits_of_base_le (by omega) (by omega)] at h
      obtain ⟨e, es, hes⟩ := List.exists_cons_of_ne_nil (@Nat.toDigits_ne_nil (n / 10) 10)
      rw [hes, List.cons_append] at h
      obtain ⟨rfl, _⟩ := List.cons.inj h
      exact ih (n / 10) (by omega) (by omega) hes

theorem magnitude_toDigits (hn : Whole negative n) (hlt : n < 2 ^ 64) (hrest : Stops rest) :
    magnitude negative (Nat.toDigits 10 n ++ rest) =
      .ok (.integer (signed negative n), rest) := by
  by_cases hzero : n = 0
  · subst hzero
    rw [Nat.toDigits_zero, List.singleton_append, magnitude, if_neg]
    · exact afterWhole_eq_ok hn hrest
    · cases rest with
      | nil => simp [startsWithDigit]
      | cons c cs => simp [startsWithDigit, isDigit, hrest.digit?_eq_none.1]
  · obtain ⟨c, ds, hds, hc, hrun⟩ := Numeral.exists_toDigits_cons n
    have hval : Nat.ofDigitChars 10 ds (c.toNat - '0'.toNat) = n := by
      have h := @Nat.ofDigitChars_ten_toDigits n
      rwa [hds, Nat.ofDigitChars_cons, Nat.mul_zero, Nat.zero_add] at h
    rw [hds, List.cons_append]
    unfold magnitude
    split
    · rename_i heq
      exact absurd heq (by simp)
    · rename_i heq
      exact absurd (List.cons.inj heq).1 (head_toDigits_ne_zero hzero hds)
    · rename_i heq
      obtain ⟨rfl, rfl⟩ := List.cons.inj heq
      simp only [Numeral.digit?_of_isDigit hc]
      rw [wholePart_append hrun (hval.symm ▸ hlt) hrest, hval, afterWhole_eq_ok hn hrest]

theorem exists_toString_cons (z : Int) :
    ∃ c cs, (toString z).toList = c :: cs ∧ starts c = true ∧ isSpace c = false := by
  obtain ⟨c, ds, hds, hc, _⟩ := Numeral.exists_toDigits_cons z.natAbs
  rw [Numeral.toList_toString_int]
  split
  · exact ⟨'-', _, rfl, by decide, by decide⟩
  · refine ⟨c, ds, hds, ?_, isSpace_of_isDigit hc⟩
    simp [starts, isDigit, Numeral.digit?_of_isDigit hc]

theorem read_toString {z : Int} (hlow : -2 ^ 63 ≤ z) (hhigh : z < 2 ^ 64) (hrest : Stops rest) :
    read ((toString z).toList ++ rest) = .ok (.integer z, rest) := by
  rw [Numeral.toList_toString_int]
  split
  · rename_i hneg
    have hz : signed true z.natAbs = z := by
      change -(z.natAbs : Int) = z
      omega
    rw [List.cons_append, read, magnitude_toDigits (fun _ => by omega) (by omega) hrest, hz]
  · rename_i hpos
    have hz : signed false z.natAbs = z := by
      change (z.natAbs : Int) = z
      omega
    obtain ⟨c, ds, hds, hc, _⟩ := Numeral.exists_toDigits_cons z.natAbs
    have hread := @magnitude_toDigits false z.natAbs rest nofun (by omega) hrest
    rw [hz, hds] at hread
    rw [hds]
    unfold read
    split
    · rename_i heq
      obtain ⟨rfl, _⟩ := List.cons.inj heq
      exact absurd hc (by decide)
    · exact hread

end Number

section Reading
variable {style : Style} {depth : Nat}

theorem reads_integer {range : Range} {z : Int} (hz : range.low ≤ z ∧ z ≤ range.high)
    (hlow : -2 ^ 63 ≤ z) (hhigh : z < 2 ^ 64) :
    Reads (readInteger range) (chars style depth (.number z)) z := by
  intro blanks rest hblanks hrest
  obtain ⟨c, cs, htext, hstarts, hspace⟩ := Number.exists_toString_cons z
  have hread := Number.read_toString hlow hhigh hrest
  rw [htext, List.cons_append] at hread
  rw [chars_number, htext, List.cons_append, readInteger, skipSpace_cons hblanks hspace]
  dsimp only
  rw [if_pos hstarts, hread, Outcome.ok_bind]
  exact if_pos hz

theorem reads_int64 (z : Int64) : Reads readInt64 (chars style depth (.number z.toInt)) z := by
  have hlow := z.le_toInt
  have hhigh := z.toInt_lt
  have h := (@reads_integer style depth .int64 z.toInt ⟨hlow, Int.le_sub_one_of_lt hhigh⟩ hlow
    (by omega)).map Int64.ofInt
  rwa [Int64.ofInt_toInt] at h

theorem reads_uint64 (n : UInt64) : Reads readUInt64 (chars style depth (.number n.toNat)) n := by
  have hlt := n.toNat_lt
  have hrange : Range.uint64.low ≤ (n.toNat : Int) ∧ (n.toNat : Int) ≤ Range.uint64.high := by
    simp only [Range.uint64]
    omega
  have h := (@reads_integer style depth _ _ hrange (by omega) (by omega)).map
    fun z => UInt64.ofNat z.toNat
  rwa [Int.toNat_natCast, UInt64.ofNat_toNat] at h

theorem reads_uint32 (n : UInt32) : Reads readUInt32 (chars style depth (.number n.toNat)) n := by
  have hlt := n.toNat_lt
  have hrange : Range.uint32.low ≤ (n.toNat : Int) ∧ (n.toNat : Int) ≤ Range.uint32.high := by
    simp only [Range.uint32]
    omega
  have h := (@reads_integer style depth _ _ hrange (by omega) (by omega)).map
    fun z => UInt32.ofNat z.toNat
  rwa [Int.toNat_natCast, UInt32.ofNat_toNat] at h

/-! ## Flags and null -/

theorem reads_bool (on : Bool) : Reads readBool (chars style depth (.bool on)) on := by
  intro blanks rest hblanks _
  rw [chars_bool]
  unfold readBool
  cases on with
  | false =>
    have htext : (toString false).toList = 'f' :: "alse".toList := by decide
    rw [htext, List.cons_append, skipSpace_cons hblanks (by decide)]
    change (literal "alse".toList ("alse".toList ++ rest)).map (false, ·) = _
    rw [literal_append]
    rfl
  | true =>
    have htext : (toString true).toList = 't' :: "rue".toList := by decide
    rw [htext, List.cons_append, skipSpace_cons hblanks (by decide)]
    change (literal "rue".toList ("rue".toList ++ rest)).map (true, ·) = _
    rw [literal_append]
    rfl

theorem reads_null {α : Type} (read : List Char → Except Error (α × List Char)) :
    Reads (readOptional read) (chars style depth .null) none := by
  intro blanks rest hblanks _
  have htext : "null".toList = 'n' :: "ull".toList := by decide
  unfold readOptional
  rw [chars_null, htext, List.cons_append, skipSpace_cons hblanks (by decide)]
  change (literal "ull".toList ("ull".toList ++ rest)).map (none, ·) = _
  rw [literal_append]
  rfl

/-- A value that does not look like null is read as itself where null might be. -/
theorem reads_some {α : Type} {read : List Char → Except Error (α × List Char)}
    {text : List Char} {a : α} {c : Char} {cs : List Char} (htext : text = c :: cs) (hc : c ≠ 'n')
    (hspace : isSpace c = false) (h : Reads read text a) :
    Reads (readOptional read) text (some a) := by
  intro blanks rest hblanks hrest
  have hread := h [] rest blank_nil hrest
  subst htext
  rw [List.nil_append, List.cons_append] at hread
  rw [readOptional, List.cons_append, skipSpace_cons hblanks hspace]
  split
  · rename_i heq
    exact absurd (List.cons.inj heq).1 hc
  · rw [hread]
    rfl

end Reading

end Checkpointing.Json
