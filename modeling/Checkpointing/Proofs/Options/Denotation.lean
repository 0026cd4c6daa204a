import Checkpointing.Options.Value
import Checkpointing.Proofs.Numeral

/-!
# What option texts denote

The text of an option, blanks around it left out, denotes at most one value of its setting. The
relation is stated beside the reading: digits and their value, durations in exact nanoseconds, names
by their canonical spelling. The reading finds exactly the denoted value.
-/

namespace Checkpointing
set_option autoImplicit false

namespace Options

/-- A numeral counts milliseconds; all other text is span text. -/
def DenotesDuration (text : String) (d : Duration) : Prop :=
  (∃ ms, Numeral.Denotes text.toList ms ∧ ms < 2 ^ 64 ∧ d.totalNanos = ms * 1000000) ∨
    ((∀ ms, Numeral.Denotes text.toList ms → 2 ^ 64 ≤ ms) ∧ Span.read text = .ok d)

def DenotesMillis (text : String) (ms : Nat) : Prop :=
  ∃ d, DenotesDuration text d ∧ d.totalNanos = ms * 1000000

/-- The word for a flag, in any case of ASCII letters. -/
def DenotesFlag (text : String) (on : Bool) : Prop :=
  String.ofList (text.toList.map Char.toLower) = toString on

theorem refusing_eq_ok_iff {α : Type} {x : Except Rejection α} {a : α} :
    refusing x = .ok a ↔ x = .ok a := Outcome.mapError_eq_ok_iff

theorem readNumber_eq_ok_iff {α : Type} {s : Setting} {read : String → Except Numeral.Error α}
    {text : String} {a : α} : readNumber s read text = .ok a ↔ read text = .ok a :=
  Outcome.mapError_eq_ok_iff

theorem readFlag_eq_ok_iff {s : Setting} {text : String} {on : Bool} :
    readFlag s text = .ok on ↔ DenotesFlag text on := by
  have htrue : toString true = "true" := rfl
  have hfalse : toString false = "false" := rfl
  unfold readFlag DenotesFlag
  split
  · rename_i h
    cases on <;> simp [h, htrue, hfalse]
  · rename_i h
    cases on <;> simp [h, htrue, hfalse]
  · rename_i hne₁ hne₂
    cases on
    · simpa [hfalse] using hne₂
    · simpa [htrue] using hne₁

theorem readLabel_eq_ok_iff {α : Type} {naming : Naming α} {unknown : String → Rejection}
    {text : String} {a : α} :
    readLabel naming unknown text = .ok a ↔ Text.label text = naming.name a := by
  unfold readLabel Naming.ofLabel?
  rw [@eq_comm _ (Text.label text), ← Naming.ofName?_eq_some_iff]
  cases naming.ofName? (Text.label text) <;> simp

theorem readLabel_eq_error {α : Type} {naming : Naming α} {unknown : String → Rejection}
    {text : String} {cause : Rejection} (h : readLabel naming unknown text = .error cause) :
    cause = unknown text := by
  unfold readLabel at h
  split at h
  · cases h
  · exact (Except.error.inj h).symm

theorem readDuration_eq_ok_iff {s : Setting} {text : String} {d : Duration} :
    readDuration s text = .ok d ↔ DenotesDuration text d := by
  unfold readDuration DenotesDuration
  cases hread : Numeral.uint64 text with
  | ok ms =>
    have hms := Numeral.uint64_eq_ok_iff.mp hread
    have hlt := ms.toNat_lt
    simp only [Except.ok.injEq]
    constructor
    · rintro rfl
      exact Or.inl ⟨ms.toNat, hms, hlt, Duration.totalNanos_ofMillis ms⟩
    · rintro (⟨n, hn, _, hd⟩ | ⟨hbig, _⟩)
      · rw [← Duration.totalNanos_inj, hd, hn.unique hms]
        exact Duration.totalNanos_ofMillis ms
      · have := hbig _ hms
        omega
  | error cause =>
    have hbig : ∀ ms, Numeral.Denotes text.toList ms → 2 ^ 64 ≤ ms := by
      intro ms hms
      apply Nat.le_of_not_lt
      intro hlt
      have hread' : Numeral.uint64 text = .ok (UInt64.ofNat ms) := by
        rw [Numeral.uint64_eq_ok_iff, UInt64.toNat_ofNat_of_lt' (by simp [UInt64.size]; omega)]
        exact hms
      simp [hread'] at hread
    simp only [Outcome.mapError_eq_ok_iff]
    constructor
    · intro hspan
      exact Or.inr ⟨hbig, hspan⟩
    · rintro (⟨ms, hms, hlt, _⟩ | ⟨_, hspan⟩)
      · have := hbig ms hms
        omega
      · exact hspan

theorem readMillis_eq_ok_iff {s : Setting} {text : String} {ms : UInt64} :
    readMillis s text = .ok ms ↔ DenotesMillis text ms.toNat := by
  unfold readMillis DenotesMillis
  simp only [Outcome.bind_eq_ok_iff, readDuration_eq_ok_iff]
  refine exists_congr fun d => and_congr_right fun _ => ?_
  have hlt := ms.toNat_lt
  unfold Duration.IsWholeMillis Duration.millis
  split
  · rename_i hpart
    change Except.error _ = Except.ok ms ↔ _
    simp only [reduceCtorEq, false_iff]
    omega
  · rename_i hwhole
    split
    · rename_i hle
      change Except.ok _ = Except.ok ms ↔ _
      rw [Except.ok.injEq, ← UInt64.toNat_inj, UInt64.toNat_ofNat_of_lt' hle]
      omega
    · change Except.error _ = Except.ok ms ↔ _
      simp only [reduceCtorEq, false_iff]
      omega

theorem readInterval_eq_ok_iff {text : String} {ms : Int64} :
    readInterval text = .ok ms ↔ 0 ≤ ms ∧ DenotesMillis text ms.toInt.toNat := by
  have hms := ms.toInt_lt
  unfold readInterval
  simp only [Outcome.bind_eq_ok_iff, readMillis_eq_ok_iff]
  rw [Int64.le_iff_toInt_le]
  change _ ↔ 0 ≤ ms.toInt ∧ _
  constructor
  · rintro ⟨n, hn, hread⟩
    split at hread
    · rename_i hlt
      have heq : Int64.ofNat n.toNat = ms := Except.ok.inj hread
      have hval : ms.toInt = n.toNat := by
        rw [← heq, Int64.toInt_ofNat_of_lt (by omega)]
      rw [hval]
      exact ⟨by omega, hn⟩
    · exact absurd hread (by simp [throw, throwThe, MonadExceptOf.throw])
  · rintro ⟨hpos, hden⟩
    obtain ⟨n, hn⟩ := Int.eq_ofNat_of_zero_le hpos
    rw [hn] at hms hden
    have hval : (UInt64.ofNat n).toNat = n := UInt64.toNat_ofNat_of_lt' (by simp [UInt64.size]; omega)
    refine ⟨UInt64.ofNat n, by rwa [hval], ?_⟩
    rw [hval, if_pos (by omega)]
    change Except.ok _ = Except.ok ms
    rw [Except.ok.injEq, ← Int64.toInt_inj, Int64.toInt_ofNat_of_lt (by omega), hn]

end Options

namespace Change
open Options

def Denotes (text : String) : Change → Prop
  | .interval ms => 0 ≤ ms ∧ DenotesMillis text ms.toInt.toNat
  | .mode m => Text.label text = m.name
  | .timeout ms | .minPause ms => DenotesMillis text ms.toNat
  | .maxConcurrent n | .tolerableFailures n => Numeral.Denotes text.toList n.toNat
  | .failOnErrors on | .approximateRecovery on | .unaligned on | .forceUnaligned on =>
    DenotesFlag text on
  | .retention r => Text.label text = r.name
  | .alignmentTimeout d => DenotesDuration text d
  | .ignoredCheckpoint id => Numeral.DenotesInt text.toList id.toInt

theorem read_eq_ok_iff {s : Setting} {text : String} {change : Change} :
    read s text = .ok change ↔ change.setting = s ∧ change.Denotes text := by
  cases s <;> simp only [read, Outcome.bind_eq_ok_iff, Outcome.pure_eq_ok_iff, refusing_eq_ok_iff,
      readNumber_eq_ok_iff, readInterval_eq_ok_iff, readMode, readRetention, readLabel_eq_ok_iff,
      readMillis_eq_ok_iff, readFlag_eq_ok_iff, readDuration_eq_ok_iff,
      Numeral.uint32_eq_ok_iff, Numeral.int64_eq_ok_iff]
  all_goals
    constructor
    · rintro ⟨value, hvalue, rfl⟩
      exact ⟨rfl, hvalue⟩
    · rintro ⟨hs, hvalue⟩
      cases change <;> cases hs
      exact ⟨_, hvalue, rfl⟩

end Change
end Checkpointing
