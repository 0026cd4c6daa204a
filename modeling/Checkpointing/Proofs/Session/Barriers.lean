import Checkpointing.Proofs.Session.Reachability

/-!
# Barriers of jobs

Each job leads to barriers: those of periodic checkpoints, if it has an interval, and those of savepoints.
What a barrier says goes together, since the settings of a job do, wherever the job is from.
-/

namespace Checkpointing
set_option autoImplicit false

theorem Duration.toNat_cappedMillis (d : Duration) :
    d.cappedMillis.toNat = min (d.totalNanos / 1000000) (2 ^ 64 - 1) := by
  -- the cap is taken before the number is cut to 64 bits
  have hlt : min d.millis 0xFFFFFFFFFFFFFFFF < 2 ^ 64 := by omega
  rw [cappedMillis, UInt64.toNat_ofNat', Nat.mod_eq_of_lt hlt]
  rfl

structure Barrier.Fits (b : Barrier) (c : Config) : Prop where
  periodic : b.isSavepoint = false
  unaligned : b.isUnaligned = true → c.unaligned = true
  exactlyOnce : b.isUnaligned = true → c.mode = .exactlyOnce
  noRecovery : b.isUnaligned = true → c.approximateRecovery = false
  timeout_isSome : b.alignmentTimeoutMs.isSome = b.isUnaligned
  timeout : ∀ ms ∈ b.alignmentTimeoutMs,
    ms.toNat = min (c.alignmentTimeout.totalNanos / 1000000) (2 ^ 64 - 1)
  aligned : c.unaligned = false → b = .aligned

namespace Config
variable {c : Config}

theorem Coherent.isEnabled_eq_false_iff (hc : c.Coherent) :
    c.isEnabled = false ↔ c.interval = disabledInterval := by
  rcases hc.interval with hdisabled | hpos
  · exact iff_of_true (by rw [isEnabled, hdisabled]; rfl) hdisabled
  · have hne : c.interval ≠ disabledInterval := by
      intro h
      rw [h] at hpos
      exact absurd hpos (by decide)
    refine iff_of_false ?_ hne
    rw [isEnabled, decide_eq_true hpos]
    exact Bool.noConfusion

theorem isUnaligned_barrier (c : Config) : (c.barrier false).isUnaligned = c.unaligned :=
  Bool.and_true _

theorem alignmentTimeoutMs_barrier (c : Config) :
    (c.barrier false).alignmentTimeoutMs =
      if c.unaligned then some c.alignmentTimeout.cappedMillis else none := by
  rw [barrier, Bool.not_false, Bool.and_true]

theorem Coherent.fits_barrier (hc : c.Coherent) : (c.barrier false).Fits c where
  periodic := rfl
  unaligned h := c.isUnaligned_barrier ▸ h
  exactlyOnce h := hc.exactlyOnce (c.isUnaligned_barrier ▸ h)
  noRecovery h := by
    rw [isUnaligned_barrier] at h
    exact Bool.eq_false_iff.mpr fun hrecovery => hc.noRecovery ⟨h, hrecovery⟩
  timeout_isSome := by
    rw [isUnaligned_barrier, alignmentTimeoutMs_barrier]
    cases c.unaligned <;> rfl
  timeout ms hms := by
    rw [alignmentTimeoutMs_barrier] at hms
    split at hms
    · exact Option.some.inj hms ▸ c.alignmentTimeout.toNat_cappedMillis
    · exact nomatch hms
  aligned := barrier_of_aligned

end Config

namespace Job
variable {job : Job}

theorem nextBarrier?_eq_none_iff (hc : job.config.Coherent) :
    job.nextBarrier? = none ↔ job.config.interval = Config.disabledInterval := by
  rw [nextBarrier?, ← hc.isEnabled_eq_false_iff]
  cases job.config.isEnabled with
  | true => exact iff_of_false (Option.some_ne_none _) Bool.noConfusion
  | false => exact iff_of_true rfl rfl

theorem fits_of_nextBarrier? (hc : job.config.Coherent) {b : Barrier}
    (hb : job.nextBarrier? = some b) : b.Fits job.config := by
  rw [nextBarrier?] at hb
  split at hb
  · exact Option.some.inj hb ▸ hc.fits_barrier
  · exact nomatch hb

end Job

namespace Client

/-- The barriers of a job that a client has built, planned or received. -/
theorem barriers_of_jobs (name : String) (calls : List Call) (job : Job)
    (hjob : job ∈ ((start name).run calls).jobs) :
    (job.nextBarrier? = none ↔ job.config.interval = -1) ∧
      (∀ b, job.nextBarrier? = some b → b.Fits job.config) ∧
      job.savepointBarrier = ⟨true, false, none⟩ := by
  have hc : job.config.Coherent := ((coherent_start name).run calls).jobs job hjob
  refine ⟨Job.nextBarrier?_eq_none_iff hc, fun b hb => Job.fits_of_nextBarrier? hc hb, ?_⟩
  exact job.config.barrier_savepoint

/-- The timeout has a thousand times more milliseconds than 64 bits can hold. -/
def patientJob : Job := ⟨"orders",
  { Config.default with interval := 1000, unaligned := true, alignmentTimeout := .largest }⟩

def patientCalls : List Call :=
  [.step (.enable 1000), .step (.change (.unaligned true)),
    .step (.change (.alignmentTimeout .largest)), .step .job]

theorem barriers_of_jobs_at_largest_timeout :
    patientJob ∈ ((start "orders").run patientCalls).jobs ∧
      patientJob.nextBarrier? = some ⟨false, true, some 18446744073709551615⟩ ∧
      (patientJob.nextBarrier? = none ↔ patientJob.config.interval = -1) ∧
      (∀ b, patientJob.nextBarrier? = some b → b.Fits patientJob.config) ∧
      patientJob.savepointBarrier = ⟨true, false, none⟩ := by
  have hjob : patientJob ∈ ((start "orders").run patientCalls).jobs :=
    List.mem_singleton_self patientJob
  exact ⟨hjob, by decide +kernel, barriers_of_jobs "orders" _ patientJob hjob⟩

end Client
end Checkpointing
