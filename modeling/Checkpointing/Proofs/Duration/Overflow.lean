import Checkpointing.Proofs.Duration.Span

/-!
# Sums past the largest duration

A sum of spans is refused when it does not fit, with one exception: it is given up when a span fills
the last second of the largest duration, for then the second is carried after the check.
-/

namespace Checkpointing.Span
set_option autoImplicit false
variable {total : Duration} {secs nanos n : Nat} {f : Option Fraction} {name : List Char}

theorem pure_ne_overflow {α : Type} (a : α) :
    (pure a : Except (Failure Error) α) ≠ .error .overflow := by
  simp [pure, Except.pure]

theorem refused_ne_overflow {α : Type} (e : Error) :
    (throw (.refused e) : Except (Failure Error) α) ≠ .error .overflow := by
  simp [throw, throwThe, MonadExceptOf.throw]

theorem bounded_ne_overflow (n : Nat) : bounded n ≠ .error .overflow := by
  unfold bounded
  split <;> simp

theorem bounded_eq_ok_iff {n m : Nat} : bounded n = .ok m ↔ n < 2 ^ 64 ∧ n = m := by
  unfold bounded
  split
  · rename_i hn
    exact ⟨fun h => ⟨hn, Except.ok.inj h⟩, fun h => congrArg Except.ok h.2⟩
  · rename_i hn
    simp only [reduceCtorEq, false_iff]
    intro h
    exact hn h.1

theorem bounded_bind_eq_overflow_iff {α : Type} {f : Nat → Except (Failure Error) α} :
    bounded n >>= f = .error .overflow ↔ n < 2 ^ 64 ∧ f n = .error .overflow := by
  rw [Outcome.bind_eq_error_iff]
  constructor
  · rintro (h | ⟨m, hm, h⟩)
    · exact absurd h (bounded_ne_overflow n)
    · obtain ⟨hn, rfl⟩ := bounded_eq_ok_iff.mp hm
      exact ⟨hn, h⟩
  · rintro ⟨hn, h⟩
    exact Or.inr ⟨n, bounded_eq_ok_iff.mpr ⟨hn, rfl⟩, h⟩

theorem ofParts?_eq_none_iff {s n : Nat} :
    Duration.ofParts? s n = none ↔ 2 ^ 64 ≤ s + n / 1000000000 := by
  have hcarry : (s * 1000000000 + n) / 1000000000 = s + n / 1000000000 := by omega
  unfold Duration.ofParts? Duration.ofNanos?
  rw [hcarry, ← Nat.not_lt]
  split
  · rename_i hlt
    simp only [reduceCtorEq, false_iff, not_not]
    exact hlt
  · rename_i hlt
    simp only [true_iff]
    exact hlt

theorem lt_of_ofParts?_eq_some {s n : Nat} {d : Duration} (h : Duration.ofParts? s n = some d) :
    s + n / 1000000000 < 2 ^ 64 := by
  apply Nat.lt_of_not_le
  intro hle
  rw [ofParts?_eq_none_iff.mpr hle] at h
  exact absurd h (by simp)

def FillsLastSecond (total : Duration) (nanos : Nat) : Prop :=
  total.secs.toNat = 2 ^ 64 - 1 ∧ (total.nanos : Nat) + nanos = 1000000000

/-- Only a sum of exactly 2^64 seconds is given up, and it only if the last second is filled. -/
theorem add_eq_overflow_iff : add total secs nanos = .error .overflow ↔
    total.secs.toNat + secs = 2 ^ 64 - 1 ∧ (total.nanos : Nat) + nanos = 1000000000 := by
  unfold add
  rw [bounded_bind_eq_overflow_iff]
  by_cases hcarry : (total.nanos : Nat) + nanos > 1000000000
  · rw [if_pos hcarry, bounded_bind_eq_overflow_iff]
    dsimp only
    rw [if_pos hcarry, bounded_bind_eq_overflow_iff]
    split
    · rename_i d hparts
      have hfits := lt_of_ofParts?_eq_some hparts
      refine iff_of_false (fun h => pure_ne_overflow _ h.2.2.2) ?_
      omega
    · rename_i hparts
      have hbeyond := ofParts?_eq_none_iff.mp hparts
      simp only [throw, throwThe, MonadExceptOf.throw, and_true]
      omega
  · rw [if_neg hcarry, pure_bind]
    dsimp only
    rw [if_neg hcarry, bounded_bind_eq_overflow_iff]
    split
    · rename_i d hparts
      have hfits := lt_of_ofParts?_eq_some hparts
      refine iff_of_false (fun h => pure_ne_overflow _ h.2.2) ?_
      omega
    · rename_i hparts
      have hbeyond := ofParts?_eq_none_iff.mp hparts
      simp only [throw, throwThe, MonadExceptOf.throw, and_true]
      omega

/-- Whole seconds never fill a second that is not full. -/
theorem add_secs_ne_overflow : add total secs 0 ≠ .error .overflow := by
  intro h
  have hfull := (add_eq_overflow_iff.mp h).2
  have hnanos := total.nanos.isLt
  omega

theorem add_nanos_eq_overflow_iff :
    add total 0 nanos = .error .overflow ↔ FillsLastSecond total nanos := add_eq_overflow_iff

theorem addScaled_eq_overflow_iff {scale : Scale} : addScaled total n scale = .error .overflow ↔
    ∃ k, scale = .nanos k ∧ FillsLastSecond total (n * k) := by
  cases scale with
  | secs k =>
    rw [addScaled, bounded_bind_eq_overflow_iff]
    refine iff_of_false (fun h => add_secs_ne_overflow h.2) ?_
    rintro ⟨_, hscale, _⟩
    cases hscale
  | nanos k =>
    rw [addScaled, bounded_bind_eq_overflow_iff, add_nanos_eq_overflow_iff]
    constructor
    · intro h
      exact ⟨k, rfl, h.2⟩
    · rintro ⟨_, hscale, hfills⟩
      obtain rfl := Scale.nanos.inj hscale
      have hlast := hfills.2
      exact ⟨by omega, hfills⟩

theorem addFraction_eq_overflow_iff {part : Fraction} {scale : Scale} :
    addFraction total part scale = .error .overflow ↔ ∃ k, scale = .nanos k ∧
      part.numerator * k < 2 ^ 64 ∧ part.numerator * k % part.denominator = 0 ∧
      FillsLastSecond total (part.numerator * k / part.denominator) := by
  unfold addFraction
  cases scale with
  | secs k =>
    rw [bounded_bind_eq_overflow_iff]
    refine iff_of_false ?_ ?_
    · intro ⟨_, h⟩
      dsimp only at h
      split at h
      · exact add_secs_ne_overflow h
      · exact refused_ne_overflow _ h
    · rintro ⟨_, hscale, _⟩
      cases hscale
  | nanos k =>
    rw [bounded_bind_eq_overflow_iff]
    dsimp only
    constructor
    · intro ⟨hlt, h⟩
      split at h
      · rename_i hwhole
        exact ⟨k, rfl, hlt, hwhole, add_nanos_eq_overflow_iff.mp h⟩
      · exact absurd h (refused_ne_overflow _)
    · rintro ⟨_, hscale, hlt, hwhole, hfills⟩
      obtain rfl := Scale.nanos.inj hscale
      rw [if_pos hwhole]
      exact ⟨hlt, add_nanos_eq_overflow_iff.mpr hfills⟩

/-- The whole number of a span fills the last second, or its fraction does once the whole number has been
added. -/
def Unit.Overfills (unit : Unit) (total : Duration) (n : Nat) (f : Option Fraction) : Prop :=
  (∃ k, unit.scale = .nanos k ∧ FillsLastSecond total (n * k)) ∨
    ∃ d part k, addScaled total n unit.scale = .ok d ∧ f = some part ∧
      unit.fractionScale? = some (.nanos k) ∧ part.numerator * k < 2 ^ 64 ∧
      part.numerator * k % part.denominator = 0 ∧
      FillsLastSecond d (part.numerator * k / part.denominator)

theorem addSpan_eq_overflow_iff : addSpan total n f name = .error .overflow ↔
    ∃ unit, Unit.ofName? (String.ofList name) = some unit ∧ unit.Overfills total n f := by
  unfold addSpan
  cases hunit : Unit.ofName? (String.ofList name) with
  | none => exact iff_of_false (refused_ne_overflow _) (by simp)
  | some unit =>
    simp only [Option.some.injEq, exists_eq_left', Outcome.bind_eq_error_iff,
      addScaled_eq_overflow_iff]
    refine or_congr_right ?_
    constructor
    · intro ⟨d, hd, h⟩
      split at h
      · exact absurd h (pure_ne_overflow _)
      · exact absurd h (refused_ne_overflow _)
      · rename_i part scale hscale
        obtain ⟨k, rfl, hfraction⟩ := addFraction_eq_overflow_iff.mp h
        exact ⟨d, part, k, hd, rfl, hscale, hfraction⟩
    · rintro ⟨d, part, k, hd, rfl, hscale, hfraction⟩
      refine ⟨d, hd, ?_⟩
      rw [hscale]
      exact addFraction_eq_overflow_iff.mpr ⟨k, rfl, hfraction⟩

theorem addSpan_nil_ne_overflow (total : Duration) (n : Nat) (f : Option Fraction) :
    addSpan total n f [] ≠ .error .overflow := by
  have hname : Unit.ofName? (String.ofList []) = none := by decide
  unfold addSpan
  rw [hname]
  exact refused_ne_overflow _

def EndsUnit (c : Char) : Prop := c.isDigit = true ∨ Text.isBlank c = true

/-- The span that has been read as far as its unit is one span too many. -/
def State.Overfills (s : State) : Prop := ∃ n f name unit, s.phase = .unit n f name ∧
  Unit.ofName? (String.ofList name) = some unit ∧ unit.Overfills s.sum n f

theorem State.overfills_iff {s : State} : s.Overfills ↔
    ∃ n f name, s.phase = .unit n f name ∧ addSpan s.sum n f name = .error .overflow := by
  simp only [State.Overfills, addSpan_eq_overflow_iff, exists_and_left]

theorem State.not_overfills {s : State} (hphase : ∀ n f name, s.phase ≠ .unit n f name) :
    ¬s.Overfills := by
  rintro ⟨n, f, name, _, hunit, _⟩
  exact hphase n f name hunit

theorem digitsThen_bind_ne_overflow {α : Type} {n d : Nat} {f : Nat → Except (Failure Error) α}
    (hf : ∀ m, f m ≠ .error .overflow) : digitsThen n d >>= f ≠ .error .overflow :=
  fun h => hf _ (bounded_bind_eq_overflow_iff.mp h).2

theorem step_eq_overflow_iff {s : State} {c : Char} :
    s.step c = .error .overflow ↔ s.Overfills ∧ EndsUnit c := by
  have hadd : ∀ {n : Nat} {f : Option Fraction} {name : List Char} {g : Duration → State},
      addSpan s.sum n f name >>= (fun total => pure (g total)) = .error .overflow ↔
        addSpan s.sum n f name = .error .overflow := by
    intro n f name g
    rw [Outcome.bind_eq_error_iff]
    exact or_iff_left fun ⟨total, _, h⟩ => pure_ne_overflow _ h
  unfold State.step
  dsimp only
  split
  · rename_i since hphase
    refine iff_of_false ?_ fun h => State.not_overfills (by simp [hphase]) h.1
    split
    · exact pure_ne_overflow _
    · split
      · exact pure_ne_overflow _
      · exact refused_ne_overflow _
  · rename_i n hphase
    refine iff_of_false ?_ fun h => State.not_overfills (by simp [hphase]) h.1
    split
    · exact digitsThen_bind_ne_overflow fun m => pure_ne_overflow _
    · split
      · exact pure_ne_overflow _
      · split
        · exact pure_ne_overflow _
        · split
          · exact pure_ne_overflow _
          · exact refused_ne_overflow _
  · rename_i n f place hphase
    refine iff_of_false ?_ fun h => State.not_overfills (by simp [hphase]) h.1
    split
    · exact digitsThen_bind_ne_overflow fun m =>
        digitsThen_bind_ne_overflow fun k => pure_ne_overflow _
    · split
      · exact pure_ne_overflow _
      · split
        · exact pure_ne_overflow _
        · exact refused_ne_overflow _
  · rename_i n f name hphase
    have hover : s.Overfills ↔ addSpan s.sum n f name = .error .overflow := by
      simp [State.overfills_iff, hphase]
    rw [hover]
    split
    · rename_i d hd
      have hdigit := (Numeral.digit?_eq_some_iff.mp hd).1
      rw [hadd]
      exact (and_iff_left (Or.inl hdigit)).symm
    · rename_i hd
      have hdigit : ¬c.isDigit = true := fun h => by simp [Numeral.digit?_of_isDigit h] at hd
      split
      · rename_i hblank
        rw [hadd]
        exact (and_iff_left (Or.inr hblank)).symm
      · rename_i hblank
        have hend : ¬EndsUnit c := not_or.mpr ⟨hdigit, hblank⟩
        refine iff_of_false ?_ fun h => hend h.2
        split
        · exact pure_ne_overflow _
        · exact refused_ne_overflow _

theorem finish_eq_overflow_iff {s : State} : s.finish = .error .overflow ↔ s.Overfills := by
  unfold State.finish
  split
  · rename_i since hphase
    refine iff_of_false ?_ (State.not_overfills (by simp [hphase]))
    split <;> simp
  · rename_i n hphase
    exact iff_of_false (addSpan_nil_ne_overflow _ _ _) (State.not_overfills (by simp [hphase]))
  · rename_i n f place hphase
    refine iff_of_false ?_ (State.not_overfills (by simp [hphase]))
    split
    · simp
    · exact addSpan_nil_ne_overflow _ _ _
  · rename_i n f name hphase
    simp [State.overfills_iff, hphase]

/-- The spans of a text overfill the last second somewhere: a span is added when its unit ends, at a digit,
a blank or the end of the text. -/
def Overflows (text : String) : Prop := ∃ done rest s, text.toList = done ++ rest ∧
  done.foldlM State.step .initial = .ok s ∧ s.Overfills ∧ ∀ c ∈ rest.head?, EndsUnit c

theorem read_eq_overflow_iff {text : String} : read text = .error .overflow ↔ Overflows text := by
  rw [read, readChars, Outcome.bind_eq_error_iff, Outcome.foldlM_eq_error_iff, Overflows]
  constructor
  · rintro (⟨done, c, rest, s, htext, hdone, hstep⟩ | ⟨s, hdone, hfinish⟩)
    · obtain ⟨hover, hend⟩ := step_eq_overflow_iff.mp hstep
      refine ⟨done, c :: rest, s, htext, hdone, hover, ?_⟩
      intro d hd
      exact Option.some.inj hd ▸ hend
    · exact ⟨text.toList, [], s, (List.append_nil _).symm, hdone, finish_eq_overflow_iff.mp hfinish,
        nofun⟩
  · rintro ⟨done, rest, s, htext, hdone, hover, hend⟩
    cases rest with
    | nil =>
      rw [List.append_nil] at htext
      exact Or.inr ⟨s, htext ▸ hdone, finish_eq_overflow_iff.mpr hover⟩
    | cons c rest =>
      exact Or.inl ⟨done, c, rest, s, htext, hdone, step_eq_overflow_iff.mpr ⟨hover, hend c rfl⟩⟩

end Checkpointing.Span
