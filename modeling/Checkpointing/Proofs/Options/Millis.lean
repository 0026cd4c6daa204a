import Checkpointing.Proofs.Options.Single
import Checkpointing.Proofs.Options.Totality

/-!
# Whole milliseconds

The interval, the timeout and the pause are stored in milliseconds. A text that denotes a duration is
stored as that very duration or it is refused: nothing is cut off, and no number wraps around.
-/

namespace Checkpointing
set_option autoImplicit false

def Setting.millisRange? : Setting → Option (Nat × Nat)
  | .interval => some (1, 2 ^ 63 - 1)
  | .timeout => some (1, 2 ^ 64 - 1)
  | .minPause => some (0, 2 ^ 64 - 1)
  | _ => none

theorem Options.DenotesDuration.unique {text : String} {d d' : Duration}
    (h : DenotesDuration text d) (h' : DenotesDuration text d') : d = d' := by
  have hread := (@readDuration_eq_ok_iff .interval text d).mpr h
  exact Except.ok.inj (hread.symm.trans (readDuration_eq_ok_iff.mpr h'))

namespace Change
variable {change : Change} {low high n : Nat} {text : String}

def millis? : Change → Option Int
  | .interval ms => some ms.toInt
  | .timeout ms | .minPause ms => some ms.toNat
  | _ => none

theorem exists_millis {s : Setting} (hs : s.millisRange? = some (low, high)) (hn : n ≤ high) :
    ∃ change : Change, change.setting = s ∧ change.millis? = some (n : Int) := by
  cases s <;> simp only [Setting.millisRange?, Option.some.injEq, Prod.mk.injEq, reduceCtorEq] at hs
  case interval =>
    refine ⟨.interval (.ofNat n), rfl, ?_⟩
    rw [millis?, Int64.toInt_ofNat_of_lt (by omega)]
  case timeout =>
    refine ⟨.timeout (.ofNat n), rfl, ?_⟩
    rw [millis?, UInt64.toNat_ofNat_of_lt' (by simp [UInt64.size]; omega)]
  case minPause =>
    refine ⟨.minPause (.ofNat n), rfl, ?_⟩
    rw [millis?, UInt64.toNat_ofNat_of_lt' (by simp [UInt64.size]; omega)]

theorem denotes_iff_millis (hs : change.setting.millisRange? = some (low, high)) :
    change.Denotes text ∧ change.InRange ↔ ∃ n : Nat, change.millis? = some (n : Int) ∧
      low ≤ n ∧ n ≤ high ∧ Options.DenotesMillis text n := by
  cases change <;> simp only [setting, Setting.millisRange?, Option.some.injEq, Prod.mk.injEq,
    reduceCtorEq] at hs <;> obtain ⟨rfl, rfl⟩ := hs
  case interval ms =>
    have hlt := ms.toInt_lt
    simp only [Denotes, InRange, millis?, Option.some.injEq, Int64.lt_iff_toInt_lt,
      Int64.le_iff_toInt_le, Int64.toInt_zero]
    constructor
    · rintro ⟨⟨_, hden⟩, hpos⟩
      exact ⟨ms.toInt.toNat, by omega, by omega, by omega, hden⟩
    · rintro ⟨n, hn, hlow, _, hden⟩
      have htoNat : ms.toInt.toNat = n := by omega
      exact ⟨⟨by omega, htoNat.symm ▸ hden⟩, by omega⟩
  case timeout ms =>
    have hlt := ms.toNat_lt
    simp only [Denotes, InRange, millis?, Option.some.injEq, Int.natCast_inj, UInt64.lt_iff_toNat_lt,
      UInt64.toNat_zero]
    constructor
    · rintro ⟨hden, hpos⟩
      exact ⟨ms.toNat, rfl, by omega, by omega, hden⟩
    · rintro ⟨n, rfl, hlow, _, hden⟩
      exact ⟨hden, by omega⟩
  case minPause ms =>
    have hlt := ms.toNat_lt
    simp only [Denotes, InRange, millis?, Option.some.injEq, Int.natCast_inj]
    constructor
    · rintro ⟨hden, _⟩
      exact ⟨ms.toNat, rfl, by omega, by omega, hden⟩
    · rintro ⟨n, rfl, _, _, hden⟩
      exact ⟨hden, trivial⟩

end Change

namespace Config
variable {c t : Config} {s : Setting} {low high : Nat} {text : String}

/-- No other setting has a say in a setting that is stored in milliseconds. -/
theorem admits_of_millis {change : Change} (hs : change.setting.millisRange? = some (low, high))
    (c : Config) : c.Admits change := by
  cases change <;> trivial

theorem applyText_millis_eq_ok_iff (hs : s.millisRange? = some (low, high)) :
    c.applyText s text = .ok t ↔ ∃ (n : Nat) (change : Change), change.setting = s ∧
      change.millis? = some (n : Int) ∧ low ≤ n ∧ n ≤ high ∧
      Options.DenotesMillis (Text.trim text) n ∧ c.set change = t := by
  have hadmits : ∀ change : Change, change.setting = s → c.Admits change :=
    fun change hsetting => admits_of_millis (hsetting ▸ hs) c
  rw [applyText_eq_ok_iff_of_admits hadmits]
  constructor
  · rintro ⟨change, rfl, hden, hrange, hset⟩
    obtain ⟨n, hn, hlow, hhigh, hmillis⟩ := (Change.denotes_iff_millis hs).mp ⟨hden, hrange⟩
    exact ⟨n, change, rfl, hn, hlow, hhigh, hmillis, hset⟩
  · rintro ⟨n, change, rfl, hn, hlow, hhigh, hmillis, hset⟩
    obtain ⟨hden, hrange⟩ := (Change.denotes_iff_millis hs).mpr ⟨n, hn, hlow, hhigh, hmillis⟩
    exact ⟨change, rfl, hden, hrange, hset⟩

/-- A duration is stored without loss or it is refused. -/
theorem millis_stored_without_loss (c : Config) (s : Setting) (low high : Nat)
    (hs : s.millisRange? = some (low, high)) (text : String) :
    ((∃ t, (c.configure (.single (s.key, text))).outcome = .ok t) ↔
      ∃ (d : Duration) (n : Nat), Options.DenotesDuration (Text.trim text) d ∧
        d.totalNanos = n * 1000000 ∧ low ≤ n ∧ n ≤ high) ∧
    (∀ t d, (c.configure (.single (s.key, text))).outcome = .ok t →
      Options.DenotesDuration (Text.trim text) d →
        ∃ ms : Int, (t.get s).millis? = some ms ∧ ms * 1000000 = d.totalNanos ∧
          ∀ r, r ≠ s → t.get r = c.get r) ∧
    (¬Options.Overflows (Text.trim text) →
      (∃ t, (c.configure (.single (s.key, text))).outcome = .ok t) ∨
        ∃ cause, (c.configure (.single (s.key, text))).outcome = .error (.refused cause) ∧
          cause.option = s.name) := by
  rw [outcome_configure_single]
  refine ⟨⟨?_, ?_⟩, ?_, ?_⟩
  · rintro ⟨t, ht⟩
    obtain ⟨n, change, _, _, hlow, hhigh, ⟨d, hd, hnanos⟩, _⟩ := (applyText_millis_eq_ok_iff hs).mp ht
    exact ⟨d, n, hd, hnanos, hlow, hhigh⟩
  · rintro ⟨d, n, hd, hnanos, hlow, hhigh⟩
    obtain ⟨change, hsetting, hn⟩ := Change.exists_millis hs hhigh
    exact ⟨_, (applyText_millis_eq_ok_iff hs).mpr
      ⟨n, change, hsetting, hn, hlow, hhigh, ⟨d, hd, hnanos⟩, rfl⟩⟩
  · intro t d ht hd
    obtain ⟨n, change, rfl, hn, _, _, ⟨d', hd', hnanos⟩, rfl⟩ := (applyText_millis_eq_ok_iff hs).mp ht
    obtain rfl := hd.unique hd'
    refine ⟨n, ?_, by omega, ?_⟩
    · rw [get_set, if_pos rfl, hn]
    · intro r hr
      rw [get_set, if_neg hr]
  · intro hover
    cases happly : c.applyText s text with
    | ok t => exact Or.inl ⟨t, rfl⟩
    | error failure =>
      cases failure with
      | overflow => exact absurd (applyText_eq_overflow_iff.mp happly).2 hover
      | refused cause =>
        exact Or.inr ⟨cause, rfl, congrArg Setting.name (setting_of_applyText happly)⟩

theorem millis_stored_without_loss_at_largest_interval :
    Setting.interval.millisRange? = some (1, 2 ^ 63 - 1) ∧
      ∃ t, (default.configure (.single (Setting.interval.key, " 9223372036854775807 "))).outcome =
          .ok t ∧
        ∃ ms : Int, (t.get .interval).millis? = some ms ∧
          ms * 1000000 = (Duration.ofMillis 9223372036854775807).totalNanos ∧
          ∀ r, r ≠ .interval → t.get r = default.get r := by
  have hdenotes : Options.DenotesDuration (Text.trim " 9223372036854775807 ")
      (.ofMillis 9223372036854775807) :=
    (@Options.readDuration_eq_ok_iff .interval _ _).mp rfl
  obtain ⟨haccepted, hstored, _⟩ :=
    millis_stored_without_loss default .interval _ _ rfl " 9223372036854775807 "
  obtain ⟨t, ht⟩ := haccepted.mpr ⟨_, 9223372036854775807, hdenotes, by decide, by decide, by decide⟩
  exact ⟨rfl, t, ht, hstored t _ ht hdenotes⟩

/-- A microsecond would be lost. -/
example : (default.configure (.single ("execution.checkpointing.timeout", "1s 1us"))).outcome =
    .error (.refused (.notWholeMillis .timeout "1s 1us")) := by rfl

end Config
end Checkpointing
