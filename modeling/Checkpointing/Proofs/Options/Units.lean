import Checkpointing.Proofs.Duration.Text
import Checkpointing.Proofs.Options.Denotation

/-!
# Numbers with a unit

A number of milliseconds may be written plainly, or as a span of milliseconds, seconds, minutes or
hours. The two readings count in different words, yet they agree wherever both accept. The plain one
reaches further: a span of milliseconds is added up in nanoseconds, which must fit in a word.
-/

namespace Checkpointing
set_option autoImplicit false

namespace Span
variable {n f : Nat} {d total : Duration} {scale : Scale} {unit : Unit} {name : String}

def Scale.count (n : Nat) : Scale → Nat
  | .secs k | .nanos k => n * k

theorem addScaled_zero_eq_ok (hfits : scale.count n < 2 ^ 64) (hd : d.totalNanos = scale.nanosIn n) :
    addScaled .zero n scale = .ok d := by
  cases scale with
  | secs k =>
    have hfits' : n * k < 2 ^ 64 := hfits
    have hd' : d.totalNanos = n * k * 1000000000 := hd
    rw [addScaled, bounded_of_lt hfits', Outcome.ok_bind]
    exact add_eq_ok (by decide) (by rw [hd', Duration.totalNanos_zero]; omega)
  | nanos k =>
    have hfits' : n * k < 2 ^ 64 := hfits
    have hd' : d.totalNanos = n * k := hd
    have hzero : (Duration.zero.nanos : Nat) = 0 := rfl
    rw [addScaled, bounded_of_lt hfits', Outcome.ok_bind]
    exact add_eq_ok (by omega) (by rw [hd', Duration.totalNanos_zero]; omega)

theorem addScaled_eq_refused (h : 2 ^ 64 ≤ scale.count n) :
    addScaled total n scale = .error (.refused .outOfRange) := by
  have hbounded : ∀ m, 2 ^ 64 ≤ m → bounded m = .error (.refused .outOfRange) :=
    fun m hm => if_neg (Nat.not_lt.mpr hm)
  cases scale with
  | secs k =>
    rw [addScaled, hbounded (n * k) h]
    rfl
  | nanos k =>
    rw [addScaled, hbounded (n * k) h]
    rfl

theorem readChars_span {ds gap : List Char} (hds : Numeral.IsDigits ds)
    (hn : Nat.ofDigitChars 10 ds 0 = n) (hlt : n < 2 ^ 64)
    (hgap : ∀ c ∈ gap, Text.isBlank c = true) (hunit : Unit.ofName? name = some unit) :
    readChars (ds ++ (gap ++ name.toList)) = addScaled .zero n unit.scale := by
  have hname : Unit.ofName? (String.ofList name.toList) = some unit := by rwa [String.ofList_toList]
  obtain ⟨next, hspan⟩ := @foldlM_span none 0 name.toList 0 ds gap unit hds (hn ▸ hlt) hgap hname
  rw [readChars, State.initial, hspan, Outcome.ok_bind, hn]
  change addSpan .zero n none name.toList = _
  unfold addSpan
  rw [hname]
  exact bind_pure _

def unitMillis : List (String × Nat) := [("ms", 1), ("s", 1000), ("min", 60000), ("h", 3600000)]

theorem exists_unit (h : (name, f) ∈ unitMillis) : ∃ unit, Unit.ofName? name = some unit ∧
    ∀ n, unit.scale.nanosIn n = n * f * 1000000 ∧ unit.scale.count n ≤ n * f * 1000000 := by
  simp only [unitMillis, List.mem_cons, Prod.mk.injEq, List.not_mem_nil, or_false] at h
  rcases h with ⟨rfl, rfl⟩ | ⟨rfl, rfl⟩ | ⟨rfl, rfl⟩ | ⟨rfl, rfl⟩
  · exact ⟨.millisecond, by decide, fun n => ⟨by simp [Unit.scale, Scale.nanosIn],
      by simp [Unit.scale, Scale.count]⟩⟩
  · exact ⟨.second, by decide, fun n => ⟨by simp only [Unit.scale, Scale.nanosIn]; omega,
      by simp only [Unit.scale, Scale.count]; omega⟩⟩
  · exact ⟨.minute, by decide, fun n => ⟨by simp only [Unit.scale, Scale.nanosIn]; omega,
      by simp only [Unit.scale, Scale.count]; omega⟩⟩
  · exact ⟨.hour, by decide, fun n => ⟨by simp only [Unit.scale, Scale.nanosIn]; omega,
      by simp only [Unit.scale, Scale.count]; omega⟩⟩

end Span

namespace Options
variable {n f : Nat} {d : Duration} {s : Setting} {text : String}

theorem readDuration_of_not_denotes (h : ∀ ms, ¬Numeral.Denotes text.toList ms) (s : Setting) :
    readDuration s text = (Span.read text).mapError (Failure.map (.invalidDuration s text)) := by
  unfold readDuration
  cases hread : Numeral.uint64 text with
  | ok ms => exact absurd (Numeral.uint64_eq_ok_iff.mp hread) (h _)
  | error cause => rfl

theorem readDuration_toString (hn : n < 2 ^ 64) (hd : d.totalNanos = n * 1000000) (s : Setting) :
    readDuration s (toString n) = .ok d := by
  have hdenotes : Numeral.Denotes (toString n).toList n := by
    simpa using Numeral.denotes_toDigits n
  exact readDuration_eq_ok_iff.mpr (Or.inl ⟨n, hdenotes, hn, hd⟩)

theorem readDuration_span {name : String} {unit : Span.Unit} {ds gap : List Char}
    (hunit : Span.Unit.ofName? name = some unit) (hds : Numeral.IsDigits ds)
    (hn : Nat.ofDigitChars 10 ds 0 = n) (hgap : ∀ c ∈ gap, Text.isBlank c = true)
    (hlt : n < 2 ^ 64) (htext : text.toList = ds ++ (gap ++ name.toList)) (s : Setting) :
    readDuration s text = (Span.addScaled .zero n unit.scale).mapError
      (Failure.map (.invalidDuration s text)) := by
  have hname : Span.Unit.ofName? (String.ofList name.toList) = some unit := by
    rwa [String.ofList_toList]
  obtain ⟨hne, hletters⟩ := Span.isUnitLetter_of_ofName? hname
  obtain ⟨l, hl⟩ := List.exists_mem_of_ne_nil _ hne
  have hmem : l ∈ text.toList := by simp [htext, hl]
  have hdenotes := Span.not_denotes_of_isUnitLetter (hletters l hl) hmem
  rw [readDuration_of_not_denotes hdenotes, Span.read, htext,
    Span.readChars_span hds hn hlt hgap hunit]

/-- A number with a unit denotes what the plain number of milliseconds does, or it is refused for its
size. -/
theorem units_agree_with_millis (s : Setting) (name : String) (f n : Nat) (ds gap : List Char)
    (hunit : (name, f) ∈ Span.unitMillis) (hds : Numeral.IsDigits ds)
    (hn : Nat.ofDigitChars 10 ds 0 = n) (hgap : ∀ c ∈ gap, Text.isBlank c = true)
    (hlt : n < 2 ^ 64) (hmillis : n * f < 2 ^ 64) (text : String)
    (htext : text.toList = ds ++ (gap ++ name.toList)) :
    ∃ d, d.totalNanos = n * f * 1000000 ∧ readDuration s (toString (n * f)) = .ok d ∧
      (readDuration s text = .ok d ∨
        readDuration s text = .error (.refused (.invalidDuration s text .outOfRange))) ∧
      (n * f * 1000000 < 2 ^ 64 → readDuration s text = .ok d) := by
  obtain ⟨unit, hname, hscale⟩ := Span.exists_unit hunit
  obtain ⟨hnanos, hcount⟩ := hscale n
  obtain ⟨d, hd⟩ := @Duration.exists_totalNanos_eq (n * f * 1000000) (by omega)
  have hspan := readDuration_span hname hds hn hgap hlt htext s
  refine ⟨d, hd, readDuration_toString hmillis hd s, ?_⟩
  by_cases hfits : unit.scale.count n < 2 ^ 64
  · rw [Span.addScaled_zero_eq_ok hfits (hd.trans hnanos.symm)] at hspan
    exact ⟨Or.inl hspan, fun _ => hspan⟩
  · rw [Span.addScaled_eq_refused (Nat.le_of_not_lt hfits)] at hspan
    exact ⟨Or.inr hspan, fun hsmall => by omega⟩

theorem units_agree_with_millis_of_padded_number :
    ("ms", 1) ∈ Span.unitMillis ∧
      ∃ d : Duration, d.totalNanos = 18446744073709 * 1 * 1000000 ∧
        readDuration .timeout (toString (18446744073709 * 1)) = .ok d ∧
        (readDuration .timeout "0018446744073709 ms" = .ok d ∨
          readDuration .timeout "0018446744073709 ms" =
            .error (.refused (.invalidDuration .timeout "0018446744073709 ms" .outOfRange))) ∧
        (18446744073709 * 1 * 1000000 < 2 ^ 64 →
          readDuration .timeout "0018446744073709 ms" = .ok d) :=
  ⟨by decide, units_agree_with_millis .timeout "ms" 1 18446744073709 "0018446744073709".toList [' ']
    (by decide) ⟨by decide, List.all_eq_true.mp rfl⟩ (by decide) (List.all_eq_true.mp rfl)
    (by decide) (by decide) "0018446744073709 ms" (by decide)⟩

/-- One more millisecond is too much for nanoseconds in a word. -/
example : readDuration .timeout "18446744073710" = .ok (.ofMillis 18446744073710) ∧
    readDuration .timeout "18446744073710ms" =
      .error (.refused (.invalidDuration .timeout "18446744073710ms" .outOfRange)) := ⟨rfl, rfl⟩

end Options
end Checkpointing
