import Checkpointing.Numeral
import Checkpointing.Proofs.Outcome

/-! Which texts are numerals, and of which numbers. A reading accepts exactly the numerals of numbers
in its range, and the printed form of a number is one of them. -/

namespace Checkpointing.Numeral
set_option autoImplicit false

def IsDigits (cs : List Char) : Prop := cs ≠ [] ∧ ∀ c ∈ cs, c.isDigit = true

/-- Digits, with or without a plus sign, and their value. -/
def Denotes (cs : List Char) (n : Nat) : Prop :=
  ∃ ds, IsDigits ds ∧ (cs = ds ∨ cs = '+' :: ds) ∧ Nat.ofDigitChars 10 ds 0 = n

def DenotesInt (cs : List Char) (z : Int) : Prop :=
  (∃ n : Nat, Denotes cs n ∧ z = n) ∨
    ∃ ds, IsDigits ds ∧ cs = '-' :: ds ∧ z = -(Nat.ofDigitChars 10 ds 0 : Int)

theorem digit?_eq_some_iff {c : Char} {d : Nat} :
    digit? c = some d ↔ c.isDigit = true ∧ d = c.toNat - '0'.toNat := by
  have h : ('0' ≤ c ∧ c ≤ '9') ↔ c.isDigit = true := by
    simp [Char.isDigit, Char.le_def, UInt32.le_iff_toNat_le]
  unfold digit?
  rw [← h]
  split
  · rename_i hc
    simp only [Option.some.injEq, hc, true_and]
    exact eq_comm
  · rename_i hc
    simp only [reduceCtorEq, hc, false_and]

theorem digit?_of_isDigit {c : Char} (h : c.isDigit = true) :
    digit? c = some (c.toNat - '0'.toNat) :=
  digit?_eq_some_iff.mpr ⟨h, rfl⟩

theorem digit?_eq_none {c : Char} (h : c.isDigit = false) : digit? c = none := by
  rw [Option.eq_none_iff_forall_ne_some]
  intro d hd
  simp [(digit?_eq_some_iff.mp hd).1] at h

theorem le_ofDigitChars (cs : List Char) (n : Nat) : n ≤ Nat.ofDigitChars 10 cs n := by
  induction cs generalizing n with
  | nil => simp
  | cons c cs ih =>
    rw [Nat.ofDigitChars_cons]
    exact Nat.le_trans (by omega) (ih _)

/-- Exactly digits are read, to their value, as far as the limit. -/
theorem digits_eq_ok_iff {limit : Nat} {beyond : Error} {cs : List Char} {n m : Nat}
    (hn : n ≤ limit) : digits limit beyond n cs = .ok m ↔
      (∀ c ∈ cs, c.isDigit = true) ∧ Nat.ofDigitChars 10 cs n = m ∧ m ≤ limit := by
  induction cs generalizing n with
  | nil => simp only [digits, Except.ok.injEq, Nat.ofDigitChars_nil]; grind
  | cons c cs ih =>
    rw [Nat.ofDigitChars_cons, digits]
    by_cases hc : c.isDigit = true
    · rw [digit?_of_isDigit hc]
      simp only [List.forall_mem_cons, hc, true_and]
      split
      · exact ih (by assumption)
      · have := le_ofDigitChars cs (10 * n + (c.toNat - '0'.toNat))
        simp only [reduceCtorEq, false_iff]
        omega
    · rw [digit?_eq_none (by simpa using hc)]
      simp [hc]

theorem isDigits_toDigits (n : Nat) : IsDigits (Nat.toDigits 10 n) :=
  ⟨Nat.toDigits_ne_nil, fun _ hc => Nat.isDigit_of_mem_toDigits (by decide) (by decide) hc⟩

theorem exists_toDigits_cons (n : Nat) : ∃ c ds, Nat.toDigits 10 n = c :: ds ∧
    c.isDigit = true ∧ ∀ d ∈ ds, d.isDigit = true := by
  obtain ⟨hne, hdigits⟩ := isDigits_toDigits n
  obtain ⟨c, ds, hds⟩ := List.exists_cons_of_ne_nil hne
  rw [hds] at hdigits
  exact ⟨c, ds, hds, List.forall_mem_cons.mp hdigits⟩

theorem IsDigits.not_mem {cs : List Char} (h : IsDigits cs) {c : Char} (hc : c.isDigit = false) :
    c ∉ cs := by
  intro hm
  simp [h.2 c hm] at hc

theorem natural_eq_ok_iff {limit n : Nat} {cs : List Char} :
    natural limit cs = .ok n ↔ Denotes cs n ∧ n ≤ limit := by
  have hplus : ('+' : Char).isDigit = false := by decide
  unfold natural
  split
  · simp only [reduceCtorEq, false_iff, not_and]
    rintro ⟨ds, hds, hcs | hcs, _⟩
    · exact absurd hcs.symm hds.1
    · exact absurd hcs (List.cons_ne_nil _ _).symm
  · simp only [reduceCtorEq, false_iff, not_and]
    rintro ⟨ds, hds, hcs | hcs, _⟩
    · exact absurd (hcs ▸ List.mem_cons_self) (hds.not_mem hplus)
    · exact absurd (List.cons.inj hcs).2.symm hds.1
  · rename_i cs hne
    rw [digits_eq_ok_iff (Nat.zero_le _)]
    constructor
    · rintro ⟨hds, hn, hle⟩
      exact ⟨⟨cs, ⟨fun h => hne (by rw [h]), hds⟩, Or.inr rfl, hn⟩, hle⟩
    · rintro ⟨⟨ds, hds, hcs | hcs, hn⟩, hle⟩
      · exact absurd (hcs ▸ List.mem_cons_self) (hds.not_mem hplus)
      · obtain rfl := (List.cons.inj hcs).2
        exact ⟨hds.2, hn, hle⟩
  · rename_i hnil _ hne
    rw [digits_eq_ok_iff (Nat.zero_le _)]
    constructor
    · rintro ⟨hds, hn, hle⟩
      exact ⟨⟨cs, ⟨hnil, hds⟩, Or.inl rfl, hn⟩, hle⟩
    · rintro ⟨⟨ds, hds, hcs | hcs, hn⟩, hle⟩
      · exact ⟨hcs ▸ hds.2, hcs ▸ hn, hle⟩
      · exact absurd hcs (hne ds)

theorem Denotes.unique {cs : List Char} {n m : Nat} (hn : Denotes cs n) (hm : Denotes cs m) :
    n = m := by
  have h₁ := natural_eq_ok_iff.mpr ⟨hn, Nat.le_max_left n m⟩
  have h₂ := natural_eq_ok_iff.mpr ⟨hm, Nat.le_max_right n m⟩
  exact Except.ok.inj (h₁.symm.trans h₂)

theorem integer_eq_ok_iff {low high : Nat} {cs : List Char} {z : Int} :
    integer low high cs = .ok z ↔ DenotesInt cs z ∧ -(low : Int) ≤ z ∧ z ≤ high := by
  have hminus : ('-' : Char).isDigit = false := by decide
  unfold integer
  split
  · simp only [reduceCtorEq, false_iff, not_and]
    rintro (⟨n, ⟨ds, hds, hcs | hcs, _⟩, _⟩ | ⟨ds, hds, hcs, _⟩)
    · exact absurd (hcs ▸ List.mem_cons_self) (hds.not_mem hminus)
    · exact absurd (List.cons.inj hcs).1 (by decide)
    · exact absurd (List.cons.inj hcs).2.symm hds.1
  · rename_i cs hne
    simp only [Outcome.map_eq_ok_iff, digits_eq_ok_iff (Nat.zero_le _)]
    constructor
    · rintro ⟨n, ⟨hds, hn, hle⟩, rfl⟩
      exact ⟨Or.inr ⟨cs, ⟨fun h => hne (by rw [h]), hds⟩, rfl, by rw [hn]⟩, by omega, by omega⟩
    · rintro ⟨⟨n, ⟨ds, hds, hcs | hcs, _⟩, _⟩ | ⟨ds, hds, hcs, hz⟩, hlow, _⟩
      · exact absurd (hcs ▸ List.mem_cons_self) (hds.not_mem hminus)
      · exact absurd (List.cons.inj hcs).1 (by decide)
      · obtain rfl := (List.cons.inj hcs).2
        exact ⟨_, ⟨hds.2, rfl, by omega⟩, hz.symm⟩
  · rename_i hne
    simp only [Outcome.map_eq_ok_iff, natural_eq_ok_iff]
    constructor
    · rintro ⟨n, ⟨hn, hle⟩, rfl⟩
      exact ⟨Or.inl ⟨n, hn, rfl⟩, by omega, by omega⟩
    · rintro ⟨⟨n, hn, rfl⟩ | ⟨ds, _, hcs, _⟩, _, hhigh⟩
      · exact ⟨n, ⟨hn, by omega⟩, rfl⟩
      · exact absurd hcs (hne ds)

theorem DenotesInt.unique {cs : List Char} {z w : Int} (hz : DenotesInt cs z)
    (hw : DenotesInt cs w) : z = w := by
  have hread : ∀ {v : Int}, DenotesInt cs v → v.natAbs ≤ z.natAbs + w.natAbs →
      integer (z.natAbs + w.natAbs) (z.natAbs + w.natAbs) cs = .ok v := by
    intro v hv hle
    exact integer_eq_ok_iff.mpr ⟨hv, by omega, by omega⟩
  exact Except.ok.inj ((hread hz (by omega)).symm.trans (hread hw (by omega)))

theorem denotes_toDigits (n : Nat) : Denotes (Nat.toDigits 10 n) n :=
  ⟨_, isDigits_toDigits n, Or.inl rfl, Nat.ofDigitChars_ten_toDigits⟩

theorem toList_toString_int (z : Int) : (toString z).toList =
    if z < 0 then '-' :: Nat.toDigits 10 z.natAbs else Nat.toDigits 10 z.natAbs := by
  cases z with
  | ofNat n => simp [toString, Int.repr]
  | negSucc n => simp [toString, Int.repr]

theorem denotesInt_toString (z : Int) : DenotesInt (toString z).toList z := by
  rw [toList_toString_int]
  split
  · refine Or.inr ⟨_, isDigits_toDigits z.natAbs, rfl, ?_⟩
    rw [Nat.ofDigitChars_ten_toDigits]
    omega
  · exact Or.inl ⟨z.natAbs, denotes_toDigits _, by omega⟩

theorem uint64_eq_ok_iff {s : String} {n : UInt64} :
    uint64 s = .ok n ↔ Denotes s.toList n.toNat := by
  have := n.toNat_lt
  simp only [uint64, Outcome.map_eq_ok_iff, natural_eq_ok_iff]
  constructor
  · rintro ⟨m, ⟨hm, hle⟩, rfl⟩
    rwa [UInt64.toNat_ofNat_of_lt' (by simp [UInt64.size]; omega)]
  · intro h
    exact ⟨n.toNat, ⟨h, by omega⟩, UInt64.ofNat_toNat⟩

theorem uint32_eq_ok_iff {s : String} {n : UInt32} :
    uint32 s = .ok n ↔ Denotes s.toList n.toNat := by
  have := n.toNat_lt
  simp only [uint32, Outcome.map_eq_ok_iff, natural_eq_ok_iff]
  constructor
  · rintro ⟨m, ⟨hm, hle⟩, rfl⟩
    rwa [UInt32.toNat_ofNat_of_lt' (by simp [UInt32.size]; omega)]
  · intro h
    exact ⟨n.toNat, ⟨h, by omega⟩, UInt32.ofNat_toNat⟩

theorem int64_eq_ok_iff {s : String} {z : Int64} :
    int64 s = .ok z ↔ DenotesInt s.toList z.toInt := by
  have hlow := z.le_toInt
  have hhigh := z.toInt_lt
  simp only [int64, Outcome.map_eq_ok_iff, integer_eq_ok_iff]
  constructor
  · rintro ⟨m, ⟨hm, hle, hge⟩, rfl⟩
    rwa [Int64.toInt_ofInt_of_le (by omega) (by omega)]
  · intro h
    exact ⟨z.toInt, ⟨h, by omega, by omega⟩, Int64.ofInt_toInt z⟩

end Checkpointing.Numeral
