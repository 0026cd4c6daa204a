import Mathlib
import Checkpointing.Traced

/-! When computations succeed: a computation in several steps gives a value exactly when each of its
steps does. -/

namespace Checkpointing
set_option autoImplicit false

namespace Outcome
variable {ε δ α β : Type}

theorem ok_bind (a : α) (f : α → Except ε β) : (Except.ok a : Except ε α) >>= f = f a := rfl

theorem bind_eq_ok_iff {x : Except ε α} {f : α → Except ε β} {b : β} :
    x >>= f = .ok b ↔ ∃ a, x = .ok a ∧ f a = .ok b := by
  cases x with
  | error e => simp [bind, Except.bind]
  | ok a => simp [bind, Except.bind]

theorem pure_eq_ok_iff {a b : α} : (pure a : Except ε α) = .ok b ↔ a = b := by
  simp [pure, Except.pure]

theorem map_eq_ok_iff {x : Except ε α} {f : α → β} {b : β} :
    x.map f = .ok b ↔ ∃ a, x = .ok a ∧ f a = b := by
  cases x <;> simp [Except.map]

theorem mapError_eq_ok_iff {x : Except ε α} {f : ε → δ} {a : α} :
    x.mapError f = .ok a ↔ x = .ok a := by
  cases x <;> simp [Except.mapError]

theorem mapError_eq_error_iff {x : Except ε α} {f : ε → δ} {e : δ} :
    x.mapError f = .error e ↔ ∃ cause, x = .error cause ∧ f cause = e := by
  cases x <;> simp [Except.mapError]

theorem bind_eq_error_iff {x : Except ε α} {f : α → Except ε β} {e : ε} :
    x >>= f = .error e ↔ x = .error e ∨ ∃ a, x = .ok a ∧ f a = .error e := by
  cases x with
  | error e' => simp [bind, Except.bind]
  | ok a => simp [bind, Except.bind]

/-- A run of steps fails where one of them does, after those before it have not. -/
theorem foldlM_eq_error_iff {step : β → α → Except ε β} {todo : List α} {b : β} {e : ε} :
    todo.foldlM step b = .error e ↔ ∃ done a rest d, todo = done ++ a :: rest ∧
      done.foldlM step b = .ok d ∧ step d a = .error e := by
  constructor
  · intro h
    induction todo generalizing b with
    | nil => exact absurd h (by simp [pure, Except.pure])
    | cons a todo ih =>
      rw [List.foldlM_cons, bind_eq_error_iff] at h
      rcases h with h | ⟨c, hc, h⟩
      · exact ⟨[], a, todo, b, rfl, rfl, h⟩
      · obtain ⟨done, a', rest, d, rfl, hdone, hfail⟩ := ih h
        refine ⟨a :: done, a', rest, d, rfl, ?_, hfail⟩
        rw [List.foldlM_cons, hc, ok_bind, hdone]
  · rintro ⟨done, a, rest, d, rfl, hdone, hfail⟩
    rw [List.foldlM_append, hdone, ok_bind, List.foldlM_cons, hfail]
    rfl

end Outcome

namespace Traced
variable {ε δ α β : Type}

theorem outcome_bind_eq_ok_iff {x : Traced ε α} {f : α → Traced ε β} {b : β} :
    (x >>= f).outcome = .ok b ↔ ∃ a, x.outcome = .ok a ∧ (f a).outcome = .ok b := by
  rw [bind_eq, outcome_andThen]
  exact Outcome.bind_eq_ok_iff

theorem outcome_mapError_eq_ok_iff {x : Traced ε α} {f : ε → δ} {a : α} :
    (x.mapError f).outcome = .ok a ↔ x.outcome = .ok a := Outcome.mapError_eq_ok_iff

theorem outcome_bind_of_ok {x : Traced ε α} {a : α} (h : x.outcome = .ok a)
    (f : α → Traced ε β) : (x >>= f).outcome = (f a).outcome := by
  rw [bind_eq, outcome_andThen, h]
  rfl

theorem outcome_bind_eq_error_iff {x : Traced ε α} {f : α → Traced ε β} {e : ε} :
    (x >>= f).outcome = .error e ↔
      x.outcome = .error e ∨ ∃ a, x.outcome = .ok a ∧ (f a).outcome = .error e := by
  rw [bind_eq, outcome_andThen]
  exact Outcome.bind_eq_error_iff

theorem outcome_foldlM (step : β → α → Traced ε β) (todo : List α) (b : β) :
    (todo.foldlM step b).outcome = todo.foldlM (fun b a => (step b a).outcome) b := by
  induction todo generalizing b with
  | nil => rfl
  | cons a todo ih =>
    rw [List.foldlM_cons, List.foldlM_cons, bind_eq, outcome_andThen]
    exact congrArg _ (funext ih)

theorem events_bind_of_ok {x : Traced ε α} {a : α} (h : x.outcome = .ok a)
    (f : α → Traced ε β) : (x >>= f).events = x.events ++ (f a).events := by
  rw [bind_eq, andThen_of_ok h]

theorem events_bind_of_error {x : Traced ε α} {e : ε} (h : x.outcome = .error e)
    (f : α → Traced ε β) : (x >>= f).events = x.events := by
  rw [bind_eq, andThen_of_error h]

theorem events_foldlM_append {step : β → α → Traced ε β} {done : List α} {b d : β}
    (h : (done.foldlM step b).outcome = .ok d) (rest : List α) :
    ((done ++ rest).foldlM step b).events =
      (done.foldlM step b).events ++ (rest.foldlM step d).events := by
  rw [List.foldlM_append, events_bind_of_ok h]

/-- Each step of a run that gives a value writes its part of what is looked for in the log. -/
theorem filter_events_foldlM {p : Event → Bool} {part : α → List Event}
    {step : β → α → Traced ε β} {todo : List α} {b d : β}
    (hpart : ∀ a ∈ todo, ∀ b d, (step b a).outcome = .ok d → (step b a).events.filter p = part a)
    (h : (todo.foldlM step b).outcome = .ok d) :
    (todo.foldlM step b).events.filter p = todo.flatMap part := by
  induction todo generalizing b with
  | nil => rfl
  | cons a todo ih =>
    rw [List.foldlM_cons, outcome_bind_eq_ok_iff] at h
    obtain ⟨e, he, h⟩ := h
    have hrest := ih (fun a ha => hpart a (List.mem_cons_of_mem _ ha)) h
    rw [List.foldlM_cons, events_bind_of_ok he, List.filter_append, hrest,
      hpart a List.mem_cons_self b e he, List.flatMap_cons]

/-- What is kept by every step, given the steps that are left, holds after the last one. -/
theorem foldlM_invariant {step : β → α → Traced ε β} (holds : List α → β → Prop)
    (hstep : ∀ a rest b d, holds (a :: rest) b → (step b a).outcome = .ok d → holds rest d)
    {todo : List α} {b d : β} (hb : holds todo b) (h : (todo.foldlM step b).outcome = .ok d) :
    holds [] d := by
  induction todo generalizing b with
  | nil =>
    simp only [List.foldlM_nil, pure_eq, outcome_ok, Except.ok.injEq] at h
    exact h ▸ hb
  | cons a rest ih =>
    rw [List.foldlM_cons, outcome_bind_eq_ok_iff] at h
    obtain ⟨e, he, h⟩ := h
    exact ih (hstep a rest b e hb he) h

/-- If the computation gives a value, then `post` holds of the log with the events and of that value. -/
def Ensures (log : List Event) (x : Traced ε α) (post : List Event → α → Prop) : Prop :=
  ∀ a, x.outcome = .ok a → post (log ++ x.events) a

section Ensures
variable {log : List Event} {x : Traced ε α} {post : List Event → α → Prop}

theorem ensures_ok {a : α} (h : post log a) : (ok a : Traced ε α).Ensures log post := by
  intro b hb
  obtain rfl := Except.ok.inj hb
  exact (List.append_nil log).symm ▸ h

theorem Ensures.mapError (h : x.Ensures log post) (f : ε → δ) : (x.mapError f).Ensures log post :=
  fun a ha => h a (outcome_mapError_eq_ok_iff.mp ha)

theorem Ensures.andThen {mid : List Event → α → Prop} {f : α → Traced ε β}
    {post : List Event → β → Prop} (h : x.Ensures log mid)
    (hf : ∀ log a, mid log a → (f a).Ensures log post) : (x.andThen f).Ensures log post := by
  intro b hb
  obtain ⟨a, ha, hfa⟩ := outcome_bind_eq_ok_iff.mp hb
  have hpost := hf _ a (h a ha) b hfa
  rw [andThen_of_ok ha, ← List.append_assoc]
  exact hpost

theorem ensures_given {y : Except ε β} {f : β → Traced ε α}
    (hf : ∀ b, y = .ok b → (f b).Ensures log post) : ((ofExcept y).andThen f).Ensures log post := by
  cases y with
  | error cause => exact fun _ ha => nomatch ha
  | ok b =>
    have hthen : (ofExcept (.ok b)).andThen f = f b := ok_andThen b f
    rw [hthen]
    exact hf b rfl

theorem ensures_logged {events : List Event} {f : Unit → Traced ε α}
    (hf : (f ()).Ensures (log ++ events) post) : ((Traced.log events).andThen f).Ensures log post := by
  intro a ha
  have hpost := hf a ha
  rw [List.append_assoc] at hpost
  exact hpost

theorem Ensures.foldlM {step : β → α → Traced ε β} {holds : List Event → β → Prop}
    (hstep : ∀ log b a, holds log b → (step b a).Ensures log holds) (todo : List α) {b : β}
    (hb : holds log b) : (todo.foldlM step b).Ensures log holds := by
  induction todo generalizing log b with
  | nil => exact ensures_ok hb
  | cons a todo ih => exact (hstep log b a hb).andThen fun _ _ => ih

end Ensures

end Traced
end Checkpointing
