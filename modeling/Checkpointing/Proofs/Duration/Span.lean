import Checkpointing.Duration.Span
import Checkpointing.Proofs.Numeral

/-! How span text is read: digits and letters one character at a time, and sums of spans as exact
sums of nanoseconds as far as durations reach. -/

namespace Checkpointing
set_option autoImplicit false

theorem Duration.exists_totalNanos_eq {n : Nat} (h : n < 2 ^ 64 * 1000000000) :
    ∃ d : Duration, d.totalNanos = n := by
  have hsecs : n / 1000000000 < 2 ^ 64 := by omega
  have hof : ofNanos? n = some ⟨UInt64.ofNat (n / 1000000000), Fin.ofNat _ n⟩ := if_pos hsecs
  exact ⟨_, totalNanos_of_ofNanos? hof⟩

namespace Span

theorem bounded_of_lt {n : Nat} (h : n < 2 ^ 64) : bounded n = .ok n := if_pos h

/-- A sum that is a duration is found, whether or not nanoseconds are carried. -/
theorem add_eq_ok {total d : Duration} {secs nanos : Nat}
    (hnanos : (total.nanos : Nat) + nanos < 2 ^ 64)
    (hd : d.totalNanos = total.totalNanos + secs * 1000000000 + nanos) :
    add total secs nanos = .ok d := by
  have hlt := d.totalNanos_lt
  have hsum : total.totalNanos = total.secs.toNat * 1000000000 + total.nanos := rfl
  have hparts : ∀ s n, s * 1000000000 + n = d.totalNanos → Duration.ofParts? s n = some d := by
    intro s n h
    rw [Duration.ofParts?, h, Duration.ofNanos?_totalNanos]
  unfold add
  rw [bounded_of_lt hnanos, Outcome.ok_bind]
  split
  · rename_i hcarry
    rw [bounded_of_lt (show secs + (total.nanos + nanos) / 1000000000 < 2 ^ 64 by omega),
      Outcome.ok_bind]
    dsimp only
    rw [bounded_of_lt (show total.secs.toNat + (secs + (total.nanos + nanos) / 1000000000) < 2 ^ 64
      by omega), Outcome.ok_bind, hparts]
    · rfl
    · omega
  · rename_i hcarry
    rw [pure_bind]
    dsimp only
    rw [bounded_of_lt (show total.secs.toNat + secs < 2 ^ 64 by omega), Outcome.ok_bind, hparts]
    · rfl
    · omega

def Scale.nanosIn (n : Nat) : Scale → Nat
  | .secs k => n * k * 1000000000
  | .nanos k => n * k

/-- Whether `n` of a scale leaves room to add up nanoseconds. -/
def Scale.Fits (n : Nat) : Scale → Prop
  | .secs _ => True
  | .nanos k => n * k < 2 ^ 63

theorem addScaled_eq_ok {total d : Duration} {n : Nat} {scale : Scale} (hfits : scale.Fits n)
    (hd : d.totalNanos = total.totalNanos + scale.nanosIn n) : addScaled total n scale = .ok d := by
  have hlt := d.totalNanos_lt
  have hnanos := total.nanos.isLt
  cases scale with
  | secs k =>
    have hd' : d.totalNanos = total.totalNanos + n * k * 1000000000 := hd
    rw [addScaled, bounded_of_lt (show n * k < 2 ^ 64 by omega), Outcome.ok_bind]
    exact add_eq_ok (by omega) (by rw [hd', Nat.add_zero])
  | nanos k =>
    have hd' : d.totalNanos = total.totalNanos + n * k := hd
    have hfits' : n * k < 2 ^ 63 := hfits
    rw [addScaled, bounded_of_lt (show n * k < 2 ^ 64 by omega), Outcome.ok_bind]
    exact add_eq_ok (by omega) (by rw [hd', Nat.zero_mul, Nat.add_zero])

theorem addSpan_eq_ok {total d : Duration} {n : Nat} {name : List Char} {unit : Unit}
    (hunit : Unit.ofName? (String.ofList name) = some unit) (hfits : unit.scale.Fits n)
    (hd : d.totalNanos = total.totalNanos + unit.scale.nanosIn n) :
    addSpan total n none name = .ok d := by
  unfold addSpan
  rw [hunit]
  simp only [addScaled_eq_ok hfits hd]
  rfl

theorem all_isUnitLetter_names (unit : Unit) : (unit.names.all fun name =>
    !name.toList.isEmpty && name.toList.all isUnitLetter) = true := by
  cases unit <;> rfl

theorem isUnitLetter_of_mem_names {unit : Unit} {name : String} (h : name ∈ unit.names) :
    name.toList ≠ [] ∧ ∀ c ∈ name.toList, isUnitLetter c = true := by
  have hall := List.all_eq_true.mp (all_isUnitLetter_names unit) name h
  rw [Bool.and_eq_true, List.all_eq_true, Bool.not_eq_true', List.isEmpty_eq_false_iff] at hall
  exact hall

theorem isUnitLetter_of_ofName? {name : List Char} {unit : Unit}
    (h : Unit.ofName? (String.ofList name) = some unit) :
    name ≠ [] ∧ ∀ c ∈ name, isUnitLetter c = true := by
  have hmem : String.ofList name ∈ unit.names := by
    simpa using List.find?_some h
  simpa using isUnitLetter_of_mem_names hmem

theorem toNat_of_isUnitLetter {c : Char} (h : isUnitLetter c = true) :
    65 ≤ c.toNat ∧ c.toNat ≤ 90 ∨ 97 ≤ c.toNat ∧ c.toNat ≤ 122 ∨ c.toNat = 181 := by
  simp only [isUnitLetter, Char.isAlpha, Char.isUpper, Char.isLower, Bool.or_eq_true, beq_iff_eq,
    Bool.and_eq_true, decide_eq_true_eq, ge_iff_le, UInt32.le_iff_toNat_le] at h
  rcases h with (h | h) | rfl
  · exact Or.inl h
  · exact Or.inr (Or.inl h)
  · exact Or.inr (Or.inr rfl)

theorem isDigit_of_isUnitLetter {c : Char} (h : isUnitLetter c = true) : c.isDigit = false := by
  have hc := toNat_of_isUnitLetter h
  rw [Bool.eq_false_iff, ne_eq, Char.isDigit_iff_toNat]
  intro hd
  have hlow : 48 ≤ c.toNat := hd.1
  have hhigh : c.toNat ≤ 57 := hd.2
  omega

theorem isBlank_of_isUnitLetter {c : Char} (h : isUnitLetter c = true) :
    Text.isBlank c = false := by
  have hc := toNat_of_isUnitLetter h
  simp only [Text.isBlank, Bool.or_eq_false_iff, Bool.and_eq_false_iff, decide_eq_false_iff_not,
    beq_eq_false_iff_ne]
  omega

theorem isBlank_of_isDigit {c : Char} (h : c.isDigit = true) : Text.isBlank c = false := by
  have hd := Char.isDigit_iff_toNat.mp h
  have hlow : 48 ≤ c.toNat := hd.1
  have hhigh : c.toNat ≤ 57 := hd.2
  simp only [Text.isBlank, Bool.or_eq_false_iff, Bool.and_eq_false_iff, decide_eq_false_iff_not,
    beq_eq_false_iff_ne]
  omega

theorem not_denotes_of_isUnitLetter {cs : List Char} {l : Char} (hl : isUnitLetter l = true)
    (hmem : l ∈ cs) (n : Nat) : ¬ Numeral.Denotes cs n := by
  have hplus : isUnitLetter '+' = false := by decide
  have hdigit := isDigit_of_isUnitLetter hl
  rintro ⟨ds, hds, rfl | rfl, _⟩
  · exact hds.not_mem hdigit hmem
  · rcases List.mem_cons.mp hmem with rfl | hmem
    · exact absurd hl (by simp [hplus])
    · exact hds.not_mem hdigit hmem

section Reading
variable {total : Option Duration} {offset n : Nat} {name : List Char} {c : Char}

theorem step_seeking {since : Nat} (hc : c.isDigit = true) :
    State.step ⟨total, offset, .seeking since⟩ c =
      .ok ⟨some (total.getD .zero), offset + c.utf8Size, .number (c.toNat - '0'.toNat)⟩ := by
  simp only [State.step, Numeral.digit?_of_isDigit hc]
  rfl

theorem step_number_digit (hc : c.isDigit = true)
    (hn : 10 * n + (c.toNat - '0'.toNat) < 2 ^ 64) :
    State.step ⟨total, offset, .number n⟩ c =
      .ok ⟨total, offset + c.utf8Size, .number (10 * n + (c.toNat - '0'.toNat))⟩ := by
  rw [Nat.mul_comm] at hn ⊢
  simp only [State.step, Numeral.digit?_of_isDigit hc, digitsThen, bounded_of_lt hn]
  rfl

theorem step_number_letter (hc : isUnitLetter c = true) :
    State.step ⟨total, offset, .number n⟩ c =
      .ok ⟨total, offset + c.utf8Size, .unit n none [c]⟩ := by
  simp only [State.step, Numeral.digit?_eq_none (isDigit_of_isUnitLetter hc),
    isBlank_of_isUnitLetter hc, hc]
  rfl

theorem isDigit_of_isBlank (h : Text.isBlank c = true) : c.isDigit = false := by
  rw [Bool.eq_false_iff, ne_eq]
  intro hdigit
  rw [isBlank_of_isDigit hdigit] at h
  exact absurd h (by simp)

theorem step_number_blank (hc : Text.isBlank c = true) :
    State.step ⟨total, offset, .number n⟩ c = .ok ⟨total, offset + c.utf8Size, .number n⟩ := by
  simp only [State.step, Numeral.digit?_eq_none (isDigit_of_isBlank hc), hc]
  rfl

theorem step_unit_letter (hc : isUnitLetter c = true) :
    State.step ⟨total, offset, .unit n none name⟩ c =
      .ok ⟨total, offset + c.utf8Size, .unit n none (name ++ [c])⟩ := by
  simp only [State.step, Numeral.digit?_eq_none (isDigit_of_isUnitLetter hc),
    isBlank_of_isUnitLetter hc, hc]
  rfl

theorem step_unit_blank {d : Duration} (hd : addSpan (total.getD .zero) n none name = .ok d) :
    ∃ next, State.step ⟨total, offset, .unit n none name⟩ ' ' = .ok ⟨some d, next, .seeking next⟩ := by
  have hblank : Text.isBlank ' ' = true := by decide
  have hdigit : Numeral.digit? ' ' = none := by decide
  simp only [State.step, hdigit, hblank, State.sum, hd]
  exact ⟨_, rfl⟩

theorem foldlM_digits {ds : List Char} (hds : ∀ c ∈ ds, c.isDigit = true)
    (hlt : Nat.ofDigitChars 10 ds n < 2 ^ 64) :
    ∃ next, ds.foldlM State.step ⟨total, offset, .number n⟩ =
      .ok ⟨total, next, .number (Nat.ofDigitChars 10 ds n)⟩ := by
  induction ds generalizing n offset with
  | nil => exact ⟨offset, rfl⟩
  | cons c ds ih =>
    rw [Nat.ofDigitChars_cons] at hlt ⊢
    have hle := Numeral.le_ofDigitChars ds (10 * n + (c.toNat - '0'.toNat))
    rw [List.foldlM_cons, step_number_digit (hds c List.mem_cons_self) (by omega), Outcome.ok_bind]
    exact ih (fun c hc => hds c (List.mem_cons_of_mem _ hc)) hlt

theorem foldlM_blanks {gap : List Char} (hgap : ∀ c ∈ gap, Text.isBlank c = true) :
    ∃ next, gap.foldlM State.step ⟨total, offset, .number n⟩ = .ok ⟨total, next, .number n⟩ := by
  induction gap generalizing offset with
  | nil => exact ⟨offset, rfl⟩
  | cons c gap ih =>
    rw [List.foldlM_cons, step_number_blank (hgap c List.mem_cons_self), Outcome.ok_bind]
    exact ih fun c hc => hgap c (List.mem_cons_of_mem _ hc)

theorem foldlM_letters {cs : List Char} (hcs : ∀ c ∈ cs, isUnitLetter c = true) :
    ∃ next, cs.foldlM State.step ⟨total, offset, .unit n none name⟩ =
      .ok ⟨total, next, .unit n none (name ++ cs)⟩ := by
  induction cs generalizing name offset with
  | nil => exact ⟨offset, by rw [List.append_nil]; rfl⟩
  | cons c cs ih =>
    have happ : name ++ c :: cs = (name ++ [c]) ++ cs := by simp
    rw [List.foldlM_cons, step_unit_letter (hcs c List.mem_cons_self), Outcome.ok_bind, happ]
    exact ih fun c hc => hcs c (List.mem_cons_of_mem _ hc)

/-- A span is read as far as its unit; it is added when the unit ends. -/
theorem foldlM_span {since : Nat} {ds gap : List Char} {unit : Unit} (hds : Numeral.IsDigits ds)
    (hlt : Nat.ofDigitChars 10 ds 0 < 2 ^ 64) (hgap : ∀ c ∈ gap, Text.isBlank c = true)
    (hunit : Unit.ofName? (String.ofList name) = some unit) :
    ∃ next, (ds ++ (gap ++ name)).foldlM State.step ⟨total, offset, .seeking since⟩ =
      .ok ⟨some (total.getD .zero), next, .unit (Nat.ofDigitChars 10 ds 0) none name⟩ := by
  obtain ⟨hname, hletters⟩ := isUnitLetter_of_ofName? hunit
  cases ds with
  | nil => exact absurd rfl hds.1
  | cons c ds =>
    cases name with
    | nil => exact absurd rfl hname
    | cons l name =>
      rw [Nat.ofDigitChars_cons, Nat.mul_zero, Nat.zero_add] at hlt ⊢
      obtain ⟨o₁, h₁⟩ := @foldlM_digits (some (total.getD .zero)) (offset + c.utf8Size) _ ds
        (fun c hc => hds.2 c (List.mem_cons_of_mem _ hc)) hlt
      obtain ⟨o₂, h₂⟩ := @foldlM_blanks (some (total.getD .zero)) o₁
        (Nat.ofDigitChars 10 ds (c.toNat - '0'.toNat)) gap hgap
      obtain ⟨o₃, h₃⟩ := @foldlM_letters (some (total.getD .zero)) (o₂ + l.utf8Size)
        (Nat.ofDigitChars 10 ds (c.toNat - '0'.toNat)) [l] name
        (fun c hc => hletters c (List.mem_cons_of_mem _ hc))
      refine ⟨o₃, ?_⟩
      rw [List.foldlM_append, List.foldlM_cons, step_seeking (hds.2 c List.mem_cons_self),
        Outcome.ok_bind, h₁, Outcome.ok_bind, List.foldlM_append, h₂, Outcome.ok_bind,
        List.foldlM_cons, step_number_letter (hletters l List.mem_cons_self), Outcome.ok_bind, h₃]
      rfl

end Reading
end Span
end Checkpointing
