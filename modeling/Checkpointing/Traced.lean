import Checkpointing.Event

/-! A traced computation gives a value or an error, and the events it wrote before. Events stay
written when the computation fails. -/

namespace Checkpointing
set_option autoImplicit false

structure Traced (ε α : Type) where
  events : List Event
  outcome : Except ε α

namespace Traced
variable {ε δ α β : Type}

def ok (a : α) : Traced ε α := ⟨[], .ok a⟩

def fail (e : ε) : Traced ε α := ⟨[], .error e⟩

/-- Writes events and goes on. -/
def log (events : List Event) : Traced ε Unit := ⟨events, .ok ()⟩

def ofExcept (x : Except ε α) : Traced ε α := ⟨[], x⟩

def andThen (x : Traced ε α) (f : α → Traced ε β) : Traced ε β :=
  match x.outcome with
  | .ok a => ⟨x.events ++ (f a).events, (f a).outcome⟩
  | .error e => ⟨x.events, .error e⟩

instance : Monad (Traced ε) where
  pure := ok
  bind := andThen

def mapError (f : ε → δ) (x : Traced ε α) : Traced δ α := ⟨x.events, x.outcome.mapError f⟩

/-- The value, if there is one. -/
def value? (x : Traced ε α) : Option α := x.outcome.toOption

@[ext] theorem ext {x y : Traced ε α} (hevents : x.events = y.events)
    (houtcome : x.outcome = y.outcome) : x = y := by
  cases x; cases y; simp_all

@[simp] theorem pure_eq (a : α) : (pure a : Traced ε α) = ok a := rfl
@[simp] theorem bind_eq (x : Traced ε α) (f : α → Traced ε β) : x >>= f = x.andThen f := rfl

@[simp] theorem outcome_ok (a : α) : (ok a : Traced ε α).outcome = .ok a := rfl
@[simp] theorem events_ok (a : α) : (ok a : Traced ε α).events = [] := rfl
@[simp] theorem outcome_fail (e : ε) : (fail e : Traced ε α).outcome = .error e := rfl
@[simp] theorem events_fail (e : ε) : (fail e : Traced ε α).events = [] := rfl
@[simp] theorem outcome_log (es : List Event) : (log es : Traced ε Unit).outcome = .ok () := rfl
@[simp] theorem events_log (es : List Event) : (log es : Traced ε Unit).events = es := rfl
@[simp] theorem outcome_ofExcept (x : Except ε α) : (ofExcept x).outcome = x := rfl
@[simp] theorem events_ofExcept (x : Except ε α) : (ofExcept x).events = [] := rfl
@[simp] theorem outcome_mapError (f : ε → δ) (x : Traced ε α) :
    (x.mapError f).outcome = x.outcome.mapError f := rfl
@[simp] theorem events_mapError (f : ε → δ) (x : Traced ε α) :
    (x.mapError f).events = x.events := rfl

theorem andThen_of_ok {x : Traced ε α} {a : α} (h : x.outcome = .ok a) (f : α → Traced ε β) :
    x.andThen f = ⟨x.events ++ (f a).events, (f a).outcome⟩ := by
  simp [andThen, h]

theorem andThen_of_error {x : Traced ε α} {e : ε} (h : x.outcome = .error e)
    (f : α → Traced ε β) : x.andThen f = ⟨x.events, .error e⟩ := by
  simp [andThen, h]

@[simp] theorem ok_andThen (a : α) (f : α → Traced ε β) : (ok a).andThen f = f a := by
  simp [andThen, ok]

@[simp] theorem fail_andThen (e : ε) (f : α → Traced ε β) : (fail e).andThen f = fail e := by
  simp [andThen, fail]

@[simp] theorem outcome_andThen (x : Traced ε α) (f : α → Traced ε β) :
    (x.andThen f).outcome = x.outcome.bind fun a => (f a).outcome := by
  cases h : x.outcome <;> simp [andThen, h, Except.bind]

theorem andThen_ok (x : Traced ε α) : x.andThen ok = x := by
  cases x with
  | mk es o => cases o <;> simp [andThen]

theorem andThen_assoc {γ : Type} (x : Traced ε α) (f : α → Traced ε β) (g : β → Traced ε γ) :
    (x.andThen f).andThen g = x.andThen fun a => (f a).andThen g := by
  cases x with
  | mk es o =>
    cases o with
    | error e => simp [andThen]
    | ok a => cases h : (f a).outcome <;> simp [andThen, h]

instance : LawfulMonad (Traced ε) :=
  LawfulMonad.mk' (Traced ε) andThen_ok ok_andThen andThen_assoc

end Traced
end Checkpointing
