import Checkpointing.Proofs.Session.Agreement

/-!
# Steps done again

A step that was done can be done again, and then it changes nothing. The second time it is checked against
the settings that it has led to itself. A batch need not release unaligned checkpoints again, for those that
it turns off are off already; and what it has given to the settings it gives to them once more.
-/

namespace Checkpointing
set_option autoImplicit false

namespace Config
variable {ε δ α : Type} {f : Config → Traced ε Config} {options : Options} {c t : Config}

/-- Settings that come from coherent ones give themselves. -/
def Settles (f : Config → Traced ε Config) : Prop :=
  ∀ c t, c.Coherent → (f c).outcome = .ok t → (f t).outcome = .ok t

theorem Settles.mapError (h : Settles f) (make : ε → δ) : Settles fun c => (f c).mapError make := by
  intro c t hc ht
  rw [Traced.outcome_mapError_eq_ok_iff] at ht ⊢
  exact h c t hc ht

theorem settles_given (x : Except ε α) {f : α → Config → Traced ε Config} (h : ∀ a, Settles (f a)) :
    Settles fun c => (Traced.ofExcept x).andThen fun a => f a c := by
  intro c t hc ht
  obtain ⟨a, ha, ht⟩ := Traced.outcome_bind_eq_ok_iff.mp ht
  exact Traced.outcome_bind_eq_ok_iff.mpr ⟨a, ha, h a c t hc ht⟩

theorem settles_const (x : Traced ε Config) : Settles fun _ => x := fun _ _ _ h => h

@[simp] theorem set_set_self (c : Config) (change : Change) :
    (c.set change).set change = c.set change := by
  cases change <;> rfl

/-- No setting is checked against itself. -/
@[simp] theorem refusal?_set_self (c : Config) (change : Change) :
    (c.set change).refusal? change = c.refusal? change := by
  cases change <;> rfl

theorem settles_update (change : Change) : Settles fun c => c.update change := by
  intro c t _ ht
  obtain ⟨hnone, rfl⟩ := outcome_update_eq_ok_iff.mp ht
  rw [outcome_update_eq_ok_iff, refusal?_set_self, set_set_self]
  exact ⟨hnone, rfl⟩

theorem settles_update_mode_interval (mode : Mode) (ms : Int64) :
    Settles fun c => (c.update (.mode mode)).andThen fun d => d.update (.interval ms) := by
  intro c t _ ht
  by_cases hnone : c.refusal? (.mode mode) = none ∧ c.refusal? (.interval ms) = none
  · rw [outcome_update_mode_interval hnone.1 hnone.2] at ht
    obtain rfl := Except.ok.inj ht
    have hagain : ((c.set (.mode mode)).set (.interval ms)).refusal? (.mode mode) = none ∧
        ((c.set (.mode mode)).set (.interval ms)).refusal? (.interval ms) = none := by
      rw [(refusal?_set_interval _ ms mode).1, refusal?_set_self, refusal?_set_self,
        (refusal?_set_interval c ms mode).2]
      exact hnone
    exact outcome_update_mode_interval hagain.1 hagain.2
  · obtain ⟨cause, hcause⟩ := refused_update_mode_interval hnone
    exact absurd (hcause.symm.trans ht) (by simp)

/-- The values that a batch has put into their places it puts there again. -/
theorem Replaces.again (h : Replaces options c t) : Replaces options t t where
  given := h.given
  kept := fun _ _ => rfl

theorem settles_configure (options : Options) : Settles fun c => c.configure options :=
  fun _ _ hc ht => (replaces_of_outcome_configure ht).again.outcome_configure (hc.configure ht)

end Config

namespace Session
open Config (Settles)
variable {s : Session} {step : Step} {x : Traced Error Config} {answer : Answer}

theorem exists_outcome_of_done (htake : s.take step = s.onConfig x)
    (h : (s.perform step).1.outcome = .ok answer) : ∃ c, x.outcome = .ok c := by
  rw [perform_eq, answered] at h
  obtain ⟨taken, htaken, _⟩ := Traced.outcome_bind_eq_ok_iff.mp h
  rw [htake, onConfig] at htaken
  obtain ⟨c, hc, _⟩ := Traced.outcome_bind_eq_ok_iff.mp htaken
  exact ⟨c, hc⟩

/-- Once the step is done, it is done again with the same answer and changes nothing. -/
def Repeats (s : Session) (step : Step) : Prop :=
  ∀ answer, (s.perform step).1.outcome = .ok answer →
    ((s.perform step).2.perform step).1.outcome = .ok answer ∧
      ((s.perform step).2.perform step).2 = (s.perform step).2

theorem repeats_of_take {f : Config → Traced Error Config} (hf : Settles f)
    (htake : ∀ s : Session, s.take step = s.onConfig (f s.config)) (hs : s.config.Coherent) :
    s.Repeats step := by
  intro answer h
  obtain ⟨c, hc⟩ := exists_outcome_of_done (htake s) h
  obtain ⟨hdone, hafter⟩ : s.Accepts step c := accepts_of_take (htake s) hc
  have hagain : (s.withConfig c).Accepts step c := accepts_of_take (htake _) (hf _ _ hs hc)
  rw [hafter, ← h, hdone]
  exact hagain

theorem repeats_of_writing (hwrites : (writing? step).isSome) (hs : s.config.Coherent) :
    s.Repeats step := by
  cases step with
  | change change =>
    exact repeats_of_take ((Config.settles_update change).mapError _) (fun _ => rfl) hs
  | mode label =>
    have hsettles := Config.settles_given (Options.readMode label) fun mode =>
      Config.settles_update (.mode mode)
    exact repeats_of_take (hsettles.mapError _) (fun _ => rfl) hs
  | retention label =>
    have hsettles := Config.settles_given (Options.readRetention label) fun r =>
      Config.settles_update (.retention r)
    exact repeats_of_take (hsettles.mapError _) (fun _ => rfl) hs
  | configure options =>
    exact repeats_of_take ((Config.settles_configure options).mapError _) (fun _ => rfl) hs
  | enable ms =>
    have hsettles := Config.settles_update (.interval ms)
    exact repeats_of_take (hsettles.mapError _) (fun s => s.take_enable ms) hs
  | enableWithMode ms label =>
    have hsettles := Config.settles_given (Options.readMode label) fun mode =>
      Config.settles_update_mode_interval mode ms
    exact repeats_of_take (hsettles.mapError _) (fun s => s.take_enableWithMode ms label) hs
  | loadJson text => exact repeats_of_take (Config.settles_const _) (fun _ => rfl) hs
  | fresh | save | restore | barrier | options | optionsRoundTrip | json | job | equals =>
    exact absurd hwrites (by simp [writing?])

theorem repeats_of_isQuery (hquery : step.IsQuery) : s.Repeats step := by
  intro answer h
  have hafter : (s.perform step).2 = s := by
    rw [perform_eq]
    exact next_of_isQuery hquery
  rw [hafter]
  exact ⟨h, hafter⟩

theorem repeats_restore (s : Session) (index : Nat) : s.Repeats (.restore index) := by
  intro answer h
  cases hcopy : s.saved[index]? with
  | none =>
    rw [perform_eq, answered] at h
    simp [take, copy, hcopy] at h
  | some e =>
    -- restoring leaves the copies alone, so the second time it finds the same one
    have hrestored : ∀ t : Session, t.saved = s.saved →
        t.perform (.restore index) = (.ok .done, { t with environment := e }) := by
      intro t ht
      rw [perform_eq, answered]
      simp [next, take, copy, ht, hcopy]
    rw [hrestored s rfl] at h ⊢
    rw [hrestored { s with environment := e } rfl]
    exact ⟨h, rfl⟩

/-- Once a step is done, it is done again with the same answer and changes nothing, unless it saves one
more copy. -/
theorem steps_done_again_change_nothing (s : Session) (step : Step) (answer : Answer)
    (hs : s.config.Coherent) (hstep : step ≠ .save) (h : (s.perform step).1.outcome = .ok answer) :
    ((s.perform step).2.perform step).1.outcome = .ok answer ∧
      ((s.perform step).2.perform step).2 = (s.perform step).2 := by
  have hrepeats : s.Repeats step := by
    cases step with
    | save => exact absurd rfl hstep
    | fresh name => exact fun _ h => ⟨h, rfl⟩
    | restore index => exact repeats_restore s index
    | barrier | options | optionsRoundTrip | json | job | equals => exact repeats_of_isQuery trivial
    | change | mode | retention | configure | enable | enableWithMode | loadJson =>
      exact repeats_of_writing rfl hs
  exact hrepeats answer h

/-- The mode clashes with the unaligned checkpoints that the batch finds the first time. -/
theorem steps_done_again_change_nothing_after_release :
    let s := (start "orders").withConfig { Config.default with unaligned := true }
    let step := Step.configure Config.leavingUnaligned
    s.config.Coherent ∧ (s.perform step).1.outcome = .ok .done ∧
      (s.perform step).2 = (start "orders").withConfig { Config.default with mode := .atLeastOnce } ∧
      ((s.perform step).2.perform step).1.outcome = .ok .done ∧
      ((s.perform step).2.perform step).2 = (s.perform step).2 := by
  intro s step
  have hcoherent : s.config.Coherent := by decide
  have hconfigure : (s.config.configure Config.leavingUnaligned).outcome =
      .ok { Config.default with mode := .atLeastOnce } := by decide +kernel
  obtain ⟨hdone, hafter⟩ : s.Accepts step { Config.default with mode := .atLeastOnce } :=
    accepts_of_take rfl (Traced.outcome_mapError_eq_ok_iff.mpr hconfigure)
  exact ⟨hcoherent, hdone, hafter,
    steps_done_again_change_nothing s step .done hcoherent nofun hdone⟩

end Session
end Checkpointing
