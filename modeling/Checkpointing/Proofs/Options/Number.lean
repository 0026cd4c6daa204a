import Checkpointing.Proofs.Options.Single
import Checkpointing.Proofs.Options.Totality

/-!
# Plain numbers

The number of concurrent checkpoints, the number of tolerated failures and the id of a checkpoint are
plain numbers. Digits of any length are stored as their value or refused, whether it is the reading or the
setting that has no room for them.
-/

namespace Checkpointing
set_option autoImplicit false

def Setting.numberRange? : Setting → Option (Int × Int)
  | .maxConcurrent => some (1, 2 ^ 32 - 1)
  | .tolerableFailures => some (0, 2 ^ 32 - 1)
  | .ignoredCheckpoint => some (-1, 2 ^ 63 - 1)
  | _ => none

/-- What a text counts to as the value of a setting. Only the id of a checkpoint may have a minus sign. -/
def Setting.DenotesNumber (s : Setting) (text : String) (z : Int) : Prop :=
  if s = .ignoredCheckpoint then Numeral.DenotesInt text.toList z
  else ∃ n : Nat, Numeral.Denotes text.toList n ∧ z = n

namespace Setting
variable {s : Setting} {text : String} {n : Nat} {z w : Int}

theorem denotesNumber_natCast_iff (hs : s ≠ .ignoredCheckpoint) :
    s.DenotesNumber text n ↔ Numeral.Denotes text.toList n := by
  rw [DenotesNumber, if_neg hs]
  constructor
  · intro ⟨m, hm, hnm⟩
    rwa [Int.natCast_inj.mp hnm]
  · exact fun hn => ⟨n, hn, rfl⟩

theorem DenotesNumber.unique (hz : s.DenotesNumber text z) (hw : s.DenotesNumber text w) : z = w := by
  unfold DenotesNumber at hz hw
  by_cases hs : s = .ignoredCheckpoint
  · rw [if_pos hs] at hz hw
    exact hz.unique hw
  · rw [if_neg hs] at hz hw
    obtain ⟨n, hn, rfl⟩ := hz
    obtain ⟨m, hm, rfl⟩ := hw
    rw [hn.unique hm]

end Setting

namespace Change
variable {change : Change} {low high z : Int} {text : String}

def number? : Change → Option Int
  | .maxConcurrent n | .tolerableFailures n => some n.toNat
  | .ignoredCheckpoint id => some id.toInt
  | _ => none

theorem exists_number (hs : change.setting.numberRange? = some (low, high)) :
    ∃ z, change.number? = some z := by
  cases change <;> first | exact ⟨_, rfl⟩ | cases hs

theorem exists_of_number {s : Setting} (hs : s.numberRange? = some (low, high)) (hlow : low ≤ z)
    (hhigh : z ≤ high) : ∃ change : Change, change.setting = s ∧ change.number? = some z := by
  have hcount : 0 ≤ z → z ≤ 2 ^ 32 - 1 → ((UInt32.ofNat z.toNat).toNat : Int) = z := by
    intro hlow hhigh
    rw [UInt32.toNat_ofNat_of_lt' (by simp [UInt32.size]; omega), Int.toNat_of_nonneg hlow]
  cases s <;> simp only [Setting.numberRange?, Option.some.injEq, Prod.mk.injEq, reduceCtorEq] at hs <;>
    obtain ⟨rfl, rfl⟩ := hs
  case maxConcurrent =>
    exact ⟨.maxConcurrent (.ofNat z.toNat), rfl, congrArg some (hcount (by omega) hhigh)⟩
  case tolerableFailures =>
    exact ⟨.tolerableFailures (.ofNat z.toNat), rfl, congrArg some (hcount hlow hhigh)⟩
  case ignoredCheckpoint =>
    refine ⟨.ignoredCheckpoint (.ofInt z), rfl, congrArg some ?_⟩
    exact Int64.toInt_ofInt_of_le (by omega) (by omega)

theorem denotes_iff_of_number (hz : change.number? = some z) :
    change.Denotes text ↔ change.setting.DenotesNumber text z := by
  cases change <;> simp only [number?, Option.some.injEq, reduceCtorEq] at hz <;> subst hz
  case maxConcurrent n =>
    exact (@Setting.denotesNumber_natCast_iff .maxConcurrent text n.toNat (by decide)).symm
  case tolerableFailures n =>
    exact (@Setting.denotesNumber_natCast_iff .tolerableFailures text n.toNat (by decide)).symm
  case ignoredCheckpoint id => rfl

/-- What the width of the number leaves open, the check of the change closes. -/
theorem inRange_iff_of_number (hs : change.setting.numberRange? = some (low, high))
    (hz : change.number? = some z) : change.InRange ↔ low ≤ z ∧ z ≤ high := by
  cases change <;> simp only [setting, Setting.numberRange?, Option.some.injEq, Prod.mk.injEq,
    reduceCtorEq] at hs <;> obtain ⟨rfl, rfl⟩ := hs <;> obtain rfl := Option.some.inj hz
  case maxConcurrent n =>
    have hlt := n.toNat_lt
    have hone : (1 : UInt32).toNat = 1 := rfl
    rw [InRange, UInt32.le_iff_toNat_le, hone]
    omega
  case tolerableFailures n =>
    have hlt := n.toNat_lt
    exact iff_of_true trivial (by omega)
  case ignoredCheckpoint id =>
    have hlt := id.toInt_lt
    have hnone : Config.noIgnoredCheckpoint.toInt = -1 := rfl
    rw [InRange, Int64.le_iff_toInt_le, hnone]
    omega

end Change

namespace Config
variable {c t : Config} {s : Setting} {low high : Int} {text : String}

theorem applyText_number_eq_ok_iff (hs : s.numberRange? = some (low, high)) :
    c.applyText s text = .ok t ↔ ∃ (z : Int) (change : Change), change.setting = s ∧
      change.number? = some z ∧ s.DenotesNumber (Text.trim text) z ∧ low ≤ z ∧ z ≤ high ∧
      c.set change = t := by
  have hadmits : ∀ change : Change, change.setting = s → c.Admits change := by
    intro change hsetting
    subst hsetting
    cases change <;> trivial
  rw [applyText_eq_ok_iff_of_admits hadmits]
  constructor
  · intro ⟨change, hsetting, hden, hrange, hset⟩
    subst hsetting
    obtain ⟨z, hz⟩ := Change.exists_number hs
    have hbounds := (Change.inRange_iff_of_number hs hz).mp hrange
    exact ⟨z, change, rfl, hz, (Change.denotes_iff_of_number hz).mp hden, hbounds.1, hbounds.2, hset⟩
  · intro ⟨z, change, hsetting, hz, hden, hlow, hhigh, hset⟩
    subst hsetting
    exact ⟨change, rfl, (Change.denotes_iff_of_number hz).mpr hden,
      (Change.inRange_iff_of_number hs hz).mpr ⟨hlow, hhigh⟩, hset⟩

theorem not_isDuration_of_number (hs : s.numberRange? = some (low, high)) : ¬s.IsDuration := by
  rintro (rfl | rfl | rfl | rfl) <;> cases hs

/-- A number is stored as it is written or it is refused. -/
theorem numbers_never_wrap (c : Config) (s : Setting) (low high : Int)
    (hs : s.numberRange? = some (low, high)) (text : String) :
    ((∃ t, (c.configure (.single (s.key, text))).outcome = .ok t) ↔
      ∃ z, s.DenotesNumber (Text.trim text) z ∧ low ≤ z ∧ z ≤ high) ∧
    (∀ t z, (c.configure (.single (s.key, text))).outcome = .ok t →
      s.DenotesNumber (Text.trim text) z →
        (t.get s).number? = some z ∧ ∀ r, r ≠ s → t.get r = c.get r) ∧
    ((∀ z, s.DenotesNumber (Text.trim text) z → z < low ∨ high < z) →
      ∃ cause, (c.configure (.single (s.key, text))).outcome = .error (.refused cause) ∧
        cause.option = s.name) := by
  rw [outcome_configure_single]
  have haccepted : (∃ t, c.applyText s text = .ok t) ↔
      ∃ z, s.DenotesNumber (Text.trim text) z ∧ low ≤ z ∧ z ≤ high := by
    constructor
    · intro ⟨t, ht⟩
      obtain ⟨z, _, _, _, hden, hlow, hhigh, _⟩ := (applyText_number_eq_ok_iff hs).mp ht
      exact ⟨z, hden, hlow, hhigh⟩
    · intro ⟨z, hden, hlow, hhigh⟩
      obtain ⟨change, hsetting, hz⟩ := Change.exists_of_number hs hlow hhigh
      exact ⟨_, (applyText_number_eq_ok_iff hs).mpr
        ⟨z, change, hsetting, hz, hden, hlow, hhigh, rfl⟩⟩
  refine ⟨haccepted, ?_, ?_⟩
  · intro t z ht hden
    obtain ⟨w, change, hsetting, hw, hden', _, _, hset⟩ := (applyText_number_eq_ok_iff hs).mp ht
    subst hsetting hset
    obtain rfl := hden.unique hden'
    refine ⟨?_, fun r hr => ?_⟩
    · rw [get_set, if_pos rfl, hw]
    · rw [get_set, if_neg hr]
  · intro hout
    rcases applyText_cases c s text with haccept | hrefused | ⟨hduration, _⟩
    · obtain ⟨z, hden, hlow, hhigh⟩ := haccepted.mp haccept
      have := hout z hden
      omega
    · exact hrefused
    · exact absurd hduration (not_isDuration_of_number hs)

theorem numbers_never_wrap_with_leading_zeros :
    Setting.ignoredCheckpoint.numberRange? = some (-1, 2 ^ 63 - 1) ∧
      ∃ t, (default.configure (.single (Setting.ignoredCheckpoint.key, " -00000000000000000001"))).outcome =
          .ok t ∧
        (t.get .ignoredCheckpoint).number? = some (-1) ∧
          ∀ r, r ≠ .ignoredCheckpoint → t.get r = default.get r := by
  have hdenotes : Setting.ignoredCheckpoint.DenotesNumber (Text.trim " -00000000000000000001") (-1) :=
    (@Numeral.int64_eq_ok_iff _ (-1)).mp rfl
  obtain ⟨haccepted, hstored, _⟩ :=
    numbers_never_wrap default .ignoredCheckpoint _ _ rfl " -00000000000000000001"
  obtain ⟨t, ht⟩ := haccepted.mpr ⟨-1, hdenotes, by decide, by decide⟩
  exact ⟨rfl, t, ht, hstored t _ ht hdenotes⟩

/-- One more than there is room for. -/
example : (default.configure (.single ("execution.checkpointing.tolerable-failed-checkpoints",
    "4294967296"))).outcome =
      .error (.refused (.invalidNumber .tolerableFailures "4294967296" .tooLarge)) := by rfl

end Config
end Checkpointing
