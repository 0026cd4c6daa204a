import Checkpointing.Proofs.Session.Persistence

/-!
# Warnings about the pause

Settings that are on with a pause longer than the interval have been warned of: the log of the run that led
to them has the warning with their pause and their interval. The warning is written when one of the two is
set and both have their values, in batches and snapshots too; copies were warned of before they were saved.
-/

namespace Checkpointing
set_option autoImplicit false

namespace Config
variable {log : List Event} {c : Config}

def Announced (log : List Event) (c : Config) : Prop := ∀ event ∈ c.pauseWarning, event ∈ log

theorem Announced.append (h : c.Announced log) (events : List Event) :
    c.Announced (log ++ events) :=
  fun event hevent => List.mem_append_left events (h event hevent)

theorem announced_default (log : List Event) : Config.default.Announced log :=
  fun _ hevent => nomatch hevent

/-- Whether to warn is looked into whenever it may have changed. -/
theorem pauseWarning_set (c : Config) (change : Change) :
    (c.set change).pauseWarning = c.pauseWarning ∨
      ∀ event ∈ (c.set change).pauseWarning, event ∈ (c.set change).eventsOf change := by
  cases change with
  | interval ms => exact .inr fun _ => List.mem_cons_of_mem _
  | minPause ms => exact .inr fun _ => id
  | mode | timeout | maxConcurrent | failOnErrors | tolerableFailures | retention
  | approximateRecovery | unaligned | forceUnaligned | alignmentTimeout | ignoredCheckpoint =>
    exact .inl rfl

theorem persists_announced : Persists fun log c => c.Announced log where
  more := Announced.append
  set := by
    intro log c change hc _
    rcases pauseWarning_set c change with hsame | hwritten
    · intro event hevent
      exact hc.append _ event (hsame ▸ hevent)
    · intro event hevent
      exact List.mem_append_right log (hwritten event hevent)

end Config

namespace Session

theorem announced_run (name : String) (steps : List Step) :
    ((start name).run steps).config.Announced (written ((start name).log steps)) := by
  have hstart : (start name).Everywhere (fun log c => c.Announced log) [] :=
    everywhere_start name (Config.announced_default [])
  exact (hstart.run Config.persists_announced Config.announced_default steps).config

/-- Settings that are on with a pause longer than the interval have been warned of in the run that led to
them, with the pause and the interval that they have. -/
theorem long_pause_is_announced (name : String) (steps : List Step) (c : Config)
    (hc : ((start name).run steps).config = c) (henabled : c.isEnabled)
    (hlong : c.interval.toInt < c.minPause.toNat) :
    ∃ event ∈ written ((start name).log steps),
      event = .pauseExceedsInterval c.minPause c.interval ∧ event.level = .warn ∧
        event.message = "Min pause between checkpoints exceeds the checkpoint interval" ∧
        event.fields = [("min_pause_ms", toString c.minPause), ("interval_ms", toString c.interval)] := by
  have hwarning : c.pauseWarning = [.pauseExceedsInterval c.minPause c.interval] := by
    rw [Config.pauseWarning, if_pos]
    exact Bool.and_eq_true_iff.mpr ⟨henabled, decide_eq_true hlong⟩
  have hwritten : c.Announced (written ((start name).log steps)) :=
    hc ▸ announced_run name steps
  refine ⟨_, hwritten _ ?_, rfl, rfl, rfl, rfl⟩
  rw [hwarning]
  exact List.mem_singleton_self _

/-- The copy is saved when the batch has led to the short interval. -/
def thereAndBack : List Step :=
  [.change (.minPause 10), .configure (.ofPairs [("execution.checkpointing.interval", "5")]), .save,
    .enable 20, .enableWithMode 0 "AT_LEAST_ONCE", .restore 0]

theorem long_pause_is_announced_of_restored_copy :
    ((start "orders").run thereAndBack).config = { Config.default with minPause := 10, interval := 5 } ∧
    ∃ event ∈ written ((start "orders").log thereAndBack),
      event = .pauseExceedsInterval 10 5 ∧ event.level = .warn ∧
        event.message = "Min pause between checkpoints exceeds the checkpoint interval" ∧
        event.fields = [("min_pause_ms", toString (10 : UInt64)), ("interval_ms", toString (5 : Int64))] := by
  have hc : ((start "orders").run thereAndBack).config =
      { Config.default with minPause := 10, interval := 5 } := by decide +kernel
  exact ⟨hc, long_pause_is_announced "orders" _ _ hc rfl (by decide)⟩

end Session
end Checkpointing
