import Checkpointing.Options.Configure
import Checkpointing.Proofs.Config.Approach
import Checkpointing.Proofs.Options.Denotation

/-!
# What changes keep

A property of settings, and of the log up to them, persists if every change that is not refused keeps it.
Then a batch keeps it too, and a snapshot has it if default settings do, for both only make such changes.
Settings stay coherent in this way, and checkpoints stay on.
-/

namespace Checkpointing.Config
set_option autoImplicit false
variable {ε : Type} {holds : List Event → Config → Prop} {log : List Event} {c : Config}
  {options : Options}

structure Persists (holds : List Event → Config → Prop) : Prop where
  more : ∀ {log c}, holds log c → ∀ events, holds (log ++ events) c
  set : ∀ {log c change}, holds log c → c.refusal? change = none →
    holds (log ++ (c.set change).eventsOf change) (c.set change)

namespace Persists

theorem update (h : Persists holds) (hc : holds log c) (change : Change) :
    (c.update change).Ensures log holds := by
  intro d hd
  obtain ⟨hnone, rfl⟩ := outcome_update_eq_ok_iff.mp hd
  have hevents : (c.update change).events = (c.set change).eventsOf change := by
    rw [Config.update, hnone]
  rw [hevents]
  exact h.set hc hnone

theorem update_mode_interval (h : Persists holds) (hc : holds log c) (mode : Mode) (ms : Int64) :
    ((c.update (.mode mode)).andThen fun d => d.update (.interval ms)).Ensures log holds :=
  (h.update hc (.mode mode)).andThen fun _ _ hd => h.update hd (.interval ms)

theorem applyOption (h : Persists holds) (hc : holds log c) (s : Setting) :
    (applyOption options c s).Ensures log holds := by
  unfold Config.applyOption
  cases options.lookup s with
  | none => exact Traced.ensures_ok hc
  | some value =>
    apply Traced.ensures_given
    intro change _
    refine Traced.Ensures.andThen ((h.update hc change).mapError Failure.refused) ?_
    intro log' d hd
    exact Traced.ensures_logged (Traced.ensures_ok (h.more hd _))

theorem releaseUnaligned (h : Persists holds) (hc : holds log c) {d : Config}
    (hd : releaseUnaligned options c = .ok d) : holds log d := by
  unfold Config.releaseUnaligned at hd
  split at hd
  · exact Outcome.pure_eq_ok_iff.mp hd ▸ hc
  · obtain ⟨on, _, hd⟩ := Outcome.bind_eq_ok_iff.mp hd
    obtain rfl := Outcome.pure_eq_ok_iff.mp hd
    cases on with
    | true => exact hc
    | false =>
      -- a change that writes no event, so the log need not grow
      have hset := h.set hc (show c.refusal? (.unaligned false) = none from rfl)
      exact List.append_nil log ▸ hset

theorem configure (h : Persists holds) (hc : holds log c) (options : Options) :
    (c.configure options).Ensures log holds := by
  apply Traced.ensures_logged
  apply Traced.ensures_given
  intro d hd
  apply Traced.Ensures.foldlM
  · exact fun _ _ s he => h.applyOption he s
  · exact h.releaseUnaligned (h.more hc _) (Options.refusing_eq_ok_iff.mp hd)

theorem accept (h : Persists holds) (hdefault : holds log .default) (values : Config) :
    values.accept.Ensures log holds :=
  Traced.Ensures.foldlM (fun _ _ s hc => h.update hc (values.get s)) _ hdefault

theorem readJson (h : Persists holds) (hdefault : ∀ log, holds log .default) (cs : List Char) :
    (readJson cs).Ensures log fun log read => holds log read.1 := by
  -- the settings come from the defaults by changes, whatever the text is
  have hread : (Snapshot.shape.read cs).Ensures log fun _ _ => True := fun _ _ => trivial
  refine hread.andThen fun log' read _ => ?_
  refine ((h.accept (hdefault log') read.1.overlay).mapError _).andThen fun _ _ hc => ?_
  exact Traced.ensures_ok hc

theorem ofJson (h : Persists holds) (hdefault : ∀ log, holds log .default) (text : String) :
    (Config.ofJson text).Ensures log holds := by
  refine (h.readJson hdefault text.toList).andThen fun log' read hread => ?_
  dsimp only
  split
  · exact Traced.ensures_ok hread
  · intro _ hfail
    cases hfail

end Persists

theorem persists_coherent : Persists fun _ c => c.Coherent where
  more := fun h _ => h
  set := Coherent.set

theorem Coherent.update {d : Config} {change : Change} (hc : c.Coherent)
    (h : (Config.update c change).outcome = .ok d) : d.Coherent := by
  have hkept : (Config.update c change).Ensures [] fun _ d => d.Coherent :=
    persists_coherent.update hc change
  exact hkept d h

theorem Coherent.configure {t : Config} (hc : c.Coherent)
    (h : (c.configure options).outcome = .ok t) : t.Coherent := by
  have hkept : (c.configure options).Ensures [] fun _ t => t.Coherent :=
    persists_coherent.configure hc options
  exact hkept t h

theorem coherent_of_accept {values : Config} (h : values.accept.outcome = .ok c) : c.Coherent := by
  have hkept : values.accept.Ensures [] fun _ c => c.Coherent :=
    persists_coherent.accept coherent_default values
  exact hkept c h

theorem coherent_of_readJson {cs rest : List Char} (h : (readJson cs).outcome = .ok (c, rest)) :
    c.Coherent := by
  have hkept : (readJson cs).Ensures [] fun _ read => read.1.Coherent :=
    persists_coherent.readJson (fun _ => coherent_default) cs
  exact hkept (c, rest) h

/-- There is no interval that turns checkpoints off. -/
theorem isEnabled_set {change : Change} (hc : c.isEnabled) (hnone : c.refusal? change = none) :
    (c.set change).isEnabled := by
  cases change with
  | interval ms => exact decide_eq_true (refusal?_eq_none_iff.mp hnone).1
  | mode | timeout | minPause | maxConcurrent | failOnErrors | tolerableFailures | retention
  | approximateRecovery | unaligned | forceUnaligned | alignmentTimeout | ignoredCheckpoint =>
    exact hc

theorem persists_isEnabled : Persists fun _ c => c.isEnabled where
  more := fun h _ => h
  set := isEnabled_set

end Checkpointing.Config
