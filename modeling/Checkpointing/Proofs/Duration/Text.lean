import Checkpointing.Duration.Text
import Checkpointing.Proofs.Duration.Span

/-! The span text of a duration reads back as that duration, down to the nanosecond. -/

namespace Checkpointing.Duration
set_option autoImplicit false
open Checkpointing.Span (State)

def Part.unitText (p : Part) : String := p.unit ++ if p.plural && p.count > 1 then "s" else ""

theorem Part.toList_text (p : Part) :
    p.text.toList = Nat.toDigits 10 p.count ++ p.unitText.toList := by
  simp [Part.text, Part.unitText]

/-- A part that reads as a span of that unit. -/
structure Part.Stands (p : Part) (u : Span.Unit) : Prop where
  unit : Span.Unit.ofName? p.unitText = some u
  fits : u.scale.Fits p.count
  count_lt : p.count < 2 ^ 64

def Part.nanos (p : Part) : Nat :=
  match Span.Unit.ofName? p.unitText with
  | some unit => unit.scale.nanosIn p.count
  | none => 0

theorem Part.Stands.nanos_eq {p : Part} {u : Span.Unit} (h : p.Stands u) :
    p.nanos = u.scale.nanosIn p.count := by
  rw [Part.nanos, h.unit]

theorem Part.Stands.ofName? {p : Part} {u : Span.Unit} (h : p.Stands u) :
    Span.Unit.ofName? (String.ofList p.unitText.toList) = some u := by
  rw [String.ofList_toList]
  exact h.unit

theorem Part.Stands.foldlM {p : Part} {u : Span.Unit} (h : p.Stands u) {total : Option Duration}
    {offset since : Nat} : ∃ next, p.text.toList.foldlM State.step ⟨total, offset, .seeking since⟩ =
      .ok ⟨some (total.getD .zero), next, .unit p.count none p.unitText.toList⟩ := by
  have hspan := @Span.foldlM_span total offset p.unitText.toList since (Nat.toDigits 10 p.count) [] u
    (Numeral.isDigits_toDigits p.count) (by rw [Nat.ofDigitChars_ten_toDigits]; exact h.count_lt)
    nofun h.ofName?
  rwa [Nat.ofDigitChars_ten_toDigits, List.nil_append, ← Part.toList_text] at hspan

theorem Part.Stands.addSpan {p : Part} {u : Span.Unit} (h : p.Stands u) {total d : Duration}
    (hd : d.totalNanos = total.totalNanos + p.nanos) :
    Span.addSpan total p.count none p.unitText.toList = .ok d :=
  Span.addSpan_eq_ok h.ofName? h.fits (h.nanos_eq ▸ hd)

theorem foldlM_parts {ps : List Part} (hne : ps ≠ []) (hps : ∀ p ∈ ps, ∃ u, p.Stands u)
    {total : Option Duration} {offset since : Nat} {d : Duration}
    (hd : d.totalNanos = (total.getD .zero).totalNanos + (ps.map Part.nanos).sum) :
    ∃ s, ([' '].intercalate (ps.map (·.text.toList))).foldlM State.step
      ⟨total, offset, .seeking since⟩ = .ok s ∧ s.finish = .ok d := by
  induction ps generalizing total offset since with
  | nil => exact absurd rfl hne
  | cons p ps ih =>
    obtain ⟨u, hp⟩ := hps p List.mem_cons_self
    obtain ⟨o₁, h₁⟩ := @Part.Stands.foldlM p u hp total offset since
    rw [List.map_cons, List.sum_cons] at hd
    cases ps with
    | nil =>
      refine ⟨_, by simpa using h₁, ?_⟩
      have hd' : d.totalNanos = (total.getD .zero).totalNanos + p.nanos := by simpa using hd
      exact hp.addSpan hd'
    | cons q ps =>
      have hlt := d.totalNanos_lt
      obtain ⟨e, he⟩ := @exists_totalNanos_eq ((total.getD .zero).totalNanos + p.nanos) (by omega)
      obtain ⟨o₂, h₂⟩ := @Span.step_unit_blank (some (total.getD .zero)) o₁ p.count
        p.unitText.toList e (hp.addSpan he)
      obtain ⟨s, hs, hfinish⟩ := @ih (by simp) (fun r hr => hps r (List.mem_cons_of_mem _ hr))
        (some e) o₂ o₂ (by rw [Option.getD_some, he]; omega)
      refine ⟨s, ?_, hfinish⟩
      rw [List.map_cons, List.map_cons, List.intercalate_cons_cons, List.foldlM_append,
        List.foldlM_append, h₁, Outcome.ok_bind, List.foldlM_cons, h₂, Outcome.ok_bind]
      exact hs

theorem stands_mk {n : Nat} {unit : String} {u : Span.Unit} {plural : Bool}
    (hunit : Span.Unit.ofName? unit = some u)
    (hplural : plural = true → Span.Unit.ofName? (unit ++ "s") = some u) (hfits : u.scale.Fits n)
    (hn : n < 2 ^ 64) : (⟨n, unit, plural⟩ : Part).Stands u where
  unit := by
    unfold Part.unitText
    dsimp only
    split
    · rename_i hmany
      exact hplural (by simp_all)
    · rwa [String.append_empty]
  fits := hfits
  count_lt := hn

def partUnits : List Span.Unit :=
  [.year, .month, .day, .hour, .minute, .second, .millisecond, .microsecond, .nanosecond]

theorem forall₂_stands_parts (d : Duration) : List.Forall₂ Part.Stands d.parts partUnits := by
  have hsecs := d.secs.toNat_lt
  have hnanos := d.nanos.isLt
  have hplural : ∀ {unit u}, false = true → Span.Unit.ofName? (unit ++ "s") = some u := by simp
  unfold parts partUnits
  refine .cons ?year (.cons ?month (.cons ?day (.cons ?hour (.cons ?minute (.cons ?second
    (.cons ?milli (.cons ?micro (.cons ?nano .nil))))))))
  case year => exact stands_mk (by decide) (fun _ => by decide) trivial (by omega)
  case month => exact stands_mk (by decide) (fun _ => by decide) trivial (by omega)
  case day => exact stands_mk (by decide) (fun _ => by decide) trivial (by omega)
  case hour => exact stands_mk (by decide) hplural trivial (by omega)
  case minute => exact stands_mk (by decide) hplural trivial (by omega)
  case second => exact stands_mk (by decide) hplural trivial (by omega)
  case milli => exact stands_mk (by decide) hplural (show _ * 1000000 < 2 ^ 63 by omega) (by omega)
  case micro => exact stands_mk (by decide) hplural (show _ * 1000 < 2 ^ 63 by omega) (by omega)
  case nano => exact stands_mk (by decide) hplural (show _ * 1 < 2 ^ 63 by omega) (by omega)

theorem exists_stands {d : Duration} {p : Part} (hp : p ∈ d.parts) : ∃ u, p.Stands u := by
  obtain ⟨i, hi, rfl⟩ := List.getElem_of_mem hp
  have hget := d.forall₂_stands_parts.get hi (d.forall₂_stands_parts.length_eq ▸ hi)
  exact ⟨_, hget⟩

theorem secs_split (n : Nat) :
    n / 31557600 * 31557600 + (n % 31557600 / 2630016 * 2630016 +
      (n % 31557600 % 2630016 / 86400 * 86400 +
        (n % 31557600 % 2630016 % 86400 / 3600 * 3600 +
          (n % 31557600 % 2630016 % 86400 % 3600 / 60 * 60 +
            n % 31557600 % 2630016 % 86400 % 60 * 1)))) = n := by
  omega

theorem nanos_split (n : Nat) :
    n / 1000000 * 1000000 + (n / 1000 % 1000 * 1000 + n % 1000 * 1) = n := by
  omega

theorem exists_parts_eq (d : Duration) : ∃ year month day hour minute second milli micro nano,
    d.parts = [⟨year, "year", true⟩, ⟨month, "month", true⟩, ⟨day, "day", true⟩, ⟨hour, "h", false⟩,
      ⟨minute, "m", false⟩, ⟨second, "s", false⟩, ⟨milli, "ms", false⟩, ⟨micro, "us", false⟩,
      ⟨nano, "ns", false⟩] ∧
    year * 31557600 + (month * 2630016 + (day * 86400 + (hour * 3600 + (minute * 60 + second * 1)))) =
      d.secs.toNat ∧
    milli * 1000000 + (micro * 1000 + nano * 1) = d.nanos :=
  ⟨_, _, _, _, _, _, _, _, _, rfl, secs_split _, nanos_split _⟩

theorem sum_map_nanos {ps : List Part} {us : List Span.Unit} (h : List.Forall₂ Part.Stands ps us) :
    (ps.map Part.nanos).sum =
      (List.zipWith (fun p u => u.scale.nanosIn p.count) ps us).sum := by
  induction h with
  | nil => rfl
  | cons hp _ ih => rw [List.map_cons, List.zipWith_cons_cons, List.sum_cons, List.sum_cons, ih,
      hp.nanos_eq]

/-- The parts count every nanosecond once. -/
theorem sum_map_nanos_parts (d : Duration) : (d.parts.map Part.nanos).sum = d.totalNanos := by
  rw [sum_map_nanos d.forall₂_stands_parts]
  obtain ⟨year, month, day, hour, minute, second, milli, micro, nano, hparts, hsecs, hnanos⟩ :=
    d.exists_parts_eq
  rw [hparts, totalNanos, ← hsecs, ← hnanos]
  unfold partUnits
  iterate 9 rw [List.zipWith_cons_cons, List.sum_cons]
  rw [List.zipWith_nil_left, List.sum_nil, Nat.add_zero]
  simp only [Span.Unit.scale, Span.Scale.nanosIn]
  simp only [Nat.add_mul, Nat.add_assoc]

theorem sum_map_nanos_filter {ps : List Part} (hps : ∀ p ∈ ps, ∃ u, p.Stands u) :
    ((ps.filter (·.count != 0)).map Part.nanos).sum = (ps.map Part.nanos).sum := by
  induction ps with
  | nil => rfl
  | cons p ps ih =>
    have ih := ih fun q hq => hps q (List.mem_cons_of_mem _ hq)
    rw [List.map_cons, List.sum_cons, ← ih]
    by_cases hp : p.count = 0
    · obtain ⟨u, hu⟩ := hps p List.mem_cons_self
      have hnone : p.nanos = 0 := by
        rw [hu.nanos_eq, hp]
        cases u.scale <;> simp [Span.Scale.nanosIn]
      rw [List.filter_cons_of_neg (by simp [hp]), hnone, Nat.zero_add]
    · rw [List.filter_cons_of_pos (by simp [hp]), List.map_cons, List.sum_cons]

theorem toList_text (d : Duration) :
    (d.parts.filter (·.count != 0) = [] ∧ d.text = "0s") ∨
      (d.parts.filter (·.count != 0) ≠ [] ∧ d.text.toList =
        [' '].intercalate ((d.parts.filter (·.count != 0)).map (·.text.toList))) := by
  unfold text
  split
  · rename_i hnone
    exact Or.inl ⟨hnone, rfl⟩
  · rename_i hsome
    refine Or.inr ⟨hsome, ?_⟩
    rw [String.toList_intercalate, List.map_map]
    rfl

theorem read_text (d : Duration) : Span.read d.text = .ok d := by
  have hsum := sum_map_nanos_filter fun p hp => exists_stands (d := d) hp
  rw [sum_map_nanos_parts] at hsum
  rcases d.toList_text with ⟨hnone, htext⟩ | ⟨hsome, htext⟩
  · rw [hnone, List.map_nil, List.sum_nil, eq_comm, ← totalNanos_zero, totalNanos_inj] at hsum
    rw [htext, hsum]
    rfl
  · obtain ⟨s, hs, hfinish⟩ := @foldlM_parts _ hsome
      (fun p hp => exists_stands (List.mem_of_mem_filter hp)) none 0 0 d (by
        rw [hsum, Option.getD_none, totalNanos_zero, Nat.zero_add])
    rw [Span.read, Span.readChars, htext]
    exact Outcome.bind_eq_ok_iff.mpr ⟨s, hs, hfinish⟩

/-- Text from a digit to a letter. -/
def Framed (cs : List Char) : Prop :=
  ∃ c mid l, cs = c :: (mid ++ [l]) ∧ c.isDigit = true ∧ Span.isUnitLetter l = true

theorem Framed.append {as bs cs : List Char} (ha : Framed as) (hc : Framed cs) :
    Framed (as ++ (bs ++ cs)) := by
  obtain ⟨c, mid, k, rfl, hdigit, _⟩ := ha
  obtain ⟨e, mid', l, rfl, _, hletter⟩ := hc
  exact ⟨c, mid ++ [k] ++ bs ++ e :: mid', l, by simp, hdigit, hletter⟩

theorem Part.Stands.framed {p : Part} {u : Span.Unit} (h : p.Stands u) : Framed p.text.toList := by
  obtain ⟨hne, hletters⟩ := Span.isUnitLetter_of_ofName? h.ofName?
  obtain ⟨c, ds, hds, hc, _⟩ := Numeral.exists_toDigits_cons p.count
  have hlast := List.dropLast_append_getLast hne
  refine ⟨c, ds ++ p.unitText.toList.dropLast, p.unitText.toList.getLast hne, ?_, hc, ?_⟩
  · rw [Part.toList_text, hds, List.append_assoc, hlast, List.cons_append]
  · exact hletters _ (List.getLast_mem hne)

theorem framed_intercalate {ps : List Part} (hne : ps ≠ []) (hps : ∀ p ∈ ps, ∃ u, p.Stands u) :
    Framed ([' '].intercalate (ps.map (·.text.toList))) := by
  induction ps with
  | nil => exact absurd rfl hne
  | cons p ps ih =>
    obtain ⟨u, hp⟩ := hps p List.mem_cons_self
    cases ps with
    | nil => simpa using hp.framed
    | cons q ps =>
      rw [List.map_cons, List.map_cons, List.intercalate_cons_cons, List.append_assoc]
      exact hp.framed.append (ih (by simp) fun r hr => hps r (List.mem_cons_of_mem _ hr))

theorem framed_text (d : Duration) : Framed d.text.toList := by
  rcases d.toList_text with ⟨_, htext⟩ | ⟨hsome, htext⟩
  · rw [htext]
    exact ⟨'0', [], 's', rfl, by decide, by decide⟩
  · rw [htext]
    exact framed_intercalate hsome fun p hp => exists_stands (List.mem_of_mem_filter hp)

theorem trim_text (d : Duration) : Text.trim d.text = d.text := by
  obtain ⟨c, mid, l, htext, hdigit, hletter⟩ := d.framed_text
  have hkeep : Text.trimChars d.text.toList = d.text.toList := by
    apply Text.trimChars_eq_self
    · simpa [htext] using Span.isBlank_of_isDigit hdigit
    · simpa [htext, List.getLast?_cons] using Span.isBlank_of_isUnitLetter hletter
  rw [Text.trim, hkeep, String.ofList_toList]

theorem not_denotes_text (d : Duration) (n : Nat) : ¬ Numeral.Denotes d.text.toList n := by
  obtain ⟨c, mid, l, htext, _, hletter⟩ := d.framed_text
  exact Span.not_denotes_of_isUnitLetter hletter (by simp [htext]) n

end Checkpointing.Duration
