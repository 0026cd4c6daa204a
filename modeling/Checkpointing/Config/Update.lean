import Checkpointing.Config.Basic
import Checkpointing.Rejection
import Checkpointing.Traced

/-! Changes of one setting. A change is checked against the settings held; if it is refused they
stay as they are, otherwise the one setting takes its new value and the event is written. -/

namespace Checkpointing
set_option autoImplicit false

/-- A setting with a value for it. -/
inductive Change where
  | interval (ms : Int64)
  | mode (mode : Mode)
  | timeout (ms : UInt64)
  | minPause (ms : UInt64)
  | maxConcurrent (n : UInt32)
  | failOnErrors (on : Bool)
  | tolerableFailures (n : UInt32)
  | retention (retention : Retention)
  | approximateRecovery (on : Bool)
  | unaligned (on : Bool)
  | forceUnaligned (on : Bool)
  | alignmentTimeout (timeout : Duration)
  | ignoredCheckpoint (id : Int64)
deriving DecidableEq, Repr

def Change.setting : Change → Setting
  | .interval _ => .interval
  | .mode _ => .mode
  | .timeout _ => .timeout
  | .minPause _ => .minPause
  | .maxConcurrent _ => .maxConcurrent
  | .failOnErrors _ => .failOnErrors
  | .tolerableFailures _ => .tolerableFailures
  | .retention _ => .retention
  | .approximateRecovery _ => .approximateRecovery
  | .unaligned _ => .unaligned
  | .forceUnaligned _ => .forceUnaligned
  | .alignmentTimeout _ => .alignmentTimeout
  | .ignoredCheckpoint _ => .ignoredCheckpoint

namespace Config

/-- Replaces the value of one setting, unchecked. -/
def set (c : Config) : Change → Config
  | .interval ms => { c with interval := ms }
  | .mode mode => { c with mode := mode }
  | .timeout ms => { c with timeout := ms }
  | .minPause ms => { c with minPause := ms }
  | .maxConcurrent n => { c with maxConcurrent := n }
  | .failOnErrors on => { c with failOnErrors := on }
  | .tolerableFailures n => { c with tolerableFailures := n }
  | .retention retention => { c with retention := retention }
  | .approximateRecovery on => { c with approximateRecovery := on }
  | .unaligned on => { c with unaligned := on }
  | .forceUnaligned on => { c with forceUnaligned := on }
  | .alignmentTimeout timeout => { c with alignmentTimeout := timeout }
  | .ignoredCheckpoint id => { c with ignoredCheckpoint := id }

/-- The value a setting has. -/
def get (c : Config) : Setting → Change
  | .interval => .interval c.interval
  | .mode => .mode c.mode
  | .timeout => .timeout c.timeout
  | .minPause => .minPause c.minPause
  | .maxConcurrent => .maxConcurrent c.maxConcurrent
  | .failOnErrors => .failOnErrors c.failOnErrors
  | .tolerableFailures => .tolerableFailures c.tolerableFailures
  | .retention => .retention c.retention
  | .approximateRecovery => .approximateRecovery c.approximateRecovery
  | .unaligned => .unaligned c.unaligned
  | .forceUnaligned => .forceUnaligned c.forceUnaligned
  | .alignmentTimeout => .alignmentTimeout c.alignmentTimeout
  | .ignoredCheckpoint => .ignoredCheckpoint c.ignoredCheckpoint

/-- Why a change is refused, if it is. Mode, unaligned checkpoints and approximate local recovery are
checked against each other, all else stands alone. -/
def refusal? (c : Config) : Change → Option Rejection
  | .interval ms => if ms ≤ 0 then some (.intervalNotPositive ms) else none
  | .mode mode =>
    if mode ≠ .exactlyOnce ∧ c.unaligned then some (.modeWhileUnaligned mode) else none
  | .timeout ms => if ms = 0 then some .timeoutNotPositive else none
  | .maxConcurrent n => if n < 1 then some (.noConcurrentCheckpoint n) else none
  | .approximateRecovery on => if on ∧ c.unaligned then some .recoveryWithUnaligned else none
  | .unaligned on =>
    if !on then none
    else if c.mode ≠ .exactlyOnce then some (.unalignedInMode c.mode)
    else if c.approximateRecovery then some .unalignedWithRecovery
    else none
  | .ignoredCheckpoint id =>
    if id < noIgnoredCheckpoint then some (.ignoredCheckpointTooSmall id) else none
  | .minPause _ | .failOnErrors _ | .tolerableFailures _ | .retention _ | .forceUnaligned _
  | .alignmentTimeout _ => none

def pauseWarning (c : Config) : List Event :=
  if c.pauseExceedsInterval then [.pauseExceedsInterval c.minPause c.interval] else []

/-- The events of a change, given the settings after it. -/
def eventsOf (c : Config) : Change → List Event
  | .interval ms => .enabled ms :: c.pauseWarning
  | .mode mode => [.modeSet mode]
  | .minPause _ => c.pauseWarning
  | .maxConcurrent n => if n > 1 ∧ c.minPause > 0 then [.pausePreventsOverlap n c.minPause] else []
  | .tolerableFailures n =>
    if n > 0 ∧ c.failOnErrors then [.toleranceWithoutEffect n] else []
  | .retention retention => [.retentionSet retention]
  | .unaligned on => if on then [.unalignedEnabled] else []
  | .timeout _ | .failOnErrors _ | .approximateRecovery _ | .forceUnaligned _
  | .alignmentTimeout _ | .ignoredCheckpoint _ => []

/-- Changes one setting if nothing speaks against it. -/
def update (c : Config) (change : Change) : Traced Rejection Config :=
  match c.refusal? change with
  | some cause => .fail cause
  | none => ⟨(c.set change).eventsOf change, .ok (c.set change)⟩

@[simp] theorem setting_get (c : Config) (s : Setting) : (c.get s).setting = s := by cases s <;> rfl

theorem get_set (c : Config) (change : Change) (s : Setting) :
    (c.set change).get s = if s = change.setting then change else c.get s := by
  cases change <;> cases s <;> rfl

theorem ext_get {c d : Config} (h : ∀ s, c.get s = d.get s) : c = d := by
  have h₁ := h .interval; have h₂ := h .mode; have h₃ := h .timeout; have h₄ := h .minPause
  have h₅ := h .maxConcurrent; have h₆ := h .failOnErrors; have h₇ := h .tolerableFailures
  have h₈ := h .retention; have h₉ := h .approximateRecovery; have h₁₀ := h .unaligned
  have h₁₁ := h .forceUnaligned; have h₁₂ := h .alignmentTimeout; have h₁₃ := h .ignoredCheckpoint
  cases c; cases d
  simp_all [get]

theorem update_of_refusal {c : Config} {change : Change} {cause : Rejection}
    (h : c.refusal? change = some cause) : c.update change = .fail cause := by
  simp [update, h]

theorem outcome_update_of_refusal_eq_none {c : Config} {change : Change}
    (h : c.refusal? change = none) : (c.update change).outcome = .ok (c.set change) := by
  simp [update, h]

theorem outcome_update_eq_ok_iff {c d : Config} {change : Change} :
    (c.update change).outcome = .ok d ↔ c.refusal? change = none ∧ c.set change = d := by
  cases h : c.refusal? change <;> simp [update, h]

theorem setting_of_refusal {c : Config} {change : Change} {cause : Rejection}
    (h : c.refusal? change = some cause) : cause.setting = change.setting := by
  cases change <;> simp only [refusal?] at h <;> grind [Rejection.setting, Change.setting]

/-- A change that is not refused keeps settings coherent. -/
theorem Coherent.set {c : Config} {change : Change} (hc : c.Coherent)
    (h : c.refusal? change = none) : (c.set change).Coherent := by
  obtain ⟨h₁, h₂, h₃, h₄, h₅, h₆⟩ := hc
  cases change <;> simp only [refusal?] at h <;> constructor <;> simp only [Config.set] <;>
    first
    | assumption
    | grind [Int64.not_le, UInt64.pos_iff_ne_zero, Int64.not_lt, UInt32.not_lt]

end Config
end Checkpointing
