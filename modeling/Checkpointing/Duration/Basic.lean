/-! Durations are whole seconds and a part of a second in nanoseconds. -/

namespace Checkpointing
set_option autoImplicit false

structure Duration where
  secs : UInt64
  nanos : Fin 1000000000
deriving DecidableEq, Repr

namespace Duration

def zero : Duration := ⟨0, 0⟩

def largest : Duration := ⟨18446744073709551615, 999999999⟩

def totalNanos (d : Duration) : Nat := d.secs.toNat * 1000000000 + d.nanos

/-- The duration of that many nanoseconds, if its seconds fit. -/
def ofNanos? (n : Nat) : Option Duration :=
  if n / 1000000000 < 0x10000000000000000 then
    some ⟨UInt64.ofNat (n / 1000000000), Fin.ofNat _ n⟩
  else
    none

/-- Seconds and nanoseconds together; whole seconds among the nanoseconds are carried. -/
def ofParts? (secs nanos : Nat) : Option Duration := ofNanos? (secs * 1000000000 + nanos)

def ofMillis (ms : UInt64) : Duration :=
  ⟨ms / 1000, Fin.ofNat _ (ms.toNat % 1000 * 1000000)⟩

/-- Whole milliseconds, the rest cut off. -/
def millis (d : Duration) : Nat := d.totalNanos / 1000000

def IsWholeMillis (d : Duration) : Prop := d.totalNanos % 1000000 = 0

instance (d : Duration) : Decidable d.IsWholeMillis :=
  inferInstanceAs (Decidable (d.totalNanos % 1000000 = 0))

@[simp] theorem totalNanos_zero : zero.totalNanos = 0 := rfl

theorem totalNanos_lt (d : Duration) : d.totalNanos < 0x10000000000000000 * 1000000000 := by
  have := d.secs.toNat_lt
  have := d.nanos.isLt
  unfold totalNanos
  omega

theorem totalNanos_inj {d e : Duration} : d.totalNanos = e.totalNanos ↔ d = e := by
  refine ⟨fun h => ?_, fun h => h ▸ rfl⟩
  obtain ⟨s, n⟩ := d
  obtain ⟨t, m⟩ := e
  have := n.isLt
  have := m.isLt
  simp only [totalNanos] at h
  have hs : s = t := UInt64.toNat_inj.mp (by omega)
  have hn : n = m := Fin.ext (by omega)
  rw [hs, hn]

theorem totalNanos_of_ofNanos? {n : Nat} {d : Duration} (h : ofNanos? n = some d) :
    d.totalNanos = n := by
  unfold ofNanos? at h
  split at h
  · rename_i hn
    cases h
    simp only [totalNanos, UInt64.toNat_ofNat', Fin.val_ofNat, Nat.mod_eq_of_lt hn]
    omega
  · simp at h

theorem ofNanos?_totalNanos (d : Duration) : ofNanos? d.totalNanos = some d := by
  have hlt := d.totalNanos_lt
  unfold ofNanos?
  rw [if_pos (by omega)]
  rw [Option.some.injEq, ← totalNanos_inj]
  refine totalNanos_of_ofNanos? (n := d.totalNanos) ?_
  unfold ofNanos?
  rw [if_pos (by omega)]

theorem totalNanos_ofMillis (ms : UInt64) : (ofMillis ms).totalNanos = ms.toNat * 1000000 := by
  have := ms.toNat_lt
  simp only [ofMillis, totalNanos, UInt64.toNat_div, Fin.val_ofNat]
  have h : (1000 : UInt64).toNat = 1000 := rfl
  rw [h]
  omega

end Duration
end Checkpointing
