import Rebalance.Run.Failure

/-!
# Actions

An action works on a state; it answers or fails, and what it did to the state before it failed
stays done.
-/

namespace Rebalance

/-- An action on states of type `σ` with answers of type `α`. -/
def Act (σ α : Type) : Type :=
  σ → Except Failure α × σ

namespace Act

variable {σ τ α β : Type}

/-- Answers and leaves the state alone. -/
def answer (a : α) : Act σ α := fun s =>
  (.ok a, s)

/-- Fails and leaves the state alone. -/
def fail (f : Failure) : Act σ α := fun s =>
  (.error f, s)

/-- One action, and then another that uses its answer. -/
def andThen (x : Act σ α) (f : α → Act σ β) : Act σ β := fun s =>
  match x s with
  | (.ok a, s) => f a s
  | (.error e, s) => (.error e, s)

instance : Monad (Act σ) where
  pure := answer
  bind := andThen

/-- The state. -/
def get : Act σ σ := fun s =>
  (.ok s, s)

/-- Changes the state. -/
def modify (f : σ → σ) : Act σ Unit := fun s =>
  (.ok (), f s)

/-- Answers with a value or fails. -/
def ofExcept : Except Failure α → Act σ α
  | .ok a => answer a
  | .error f => fail f

/-- An action on a part of a larger state. -/
def on (part : σ → τ) (put : τ → σ → σ) (x : Act τ α) : Act σ α := fun s =>
  let r := x (part s)
  (r.1, put r.2 s)

@[simp] theorem pure_apply
    (a : α)
    (s : σ) :
    (pure a : Act σ α) s = (.ok a, s) :=
  rfl

@[simp] theorem fail_apply
    (f : Failure)
    (s : σ) :
    (fail f : Act σ α) s = (.error f, s) :=
  rfl

theorem bind_apply
    (x : Act σ α)
    (f : α → Act σ β)
    (s : σ) :
    (x >>= f) s = match x s with
      | (.ok a, t) => f a t
      | (.error e, t) => (.error e, t) :=
  rfl

theorem andThen_ok
    {x : Act σ α}
    {f : α → Act σ β}
    {s t : σ}
    {a : α}
    (h : x s = (.ok a, t)) :
    (x >>= f) s = f a t := by
  show andThen x f s = f a t
  simp [andThen, h]

theorem andThen_error
    {x : Act σ α}
    {f : α → Act σ β}
    {s t : σ}
    {e : Failure}
    (h : x s = (.error e, t)) :
    (x >>= f) s = (.error e, t) := by
  show andThen x f s = (.error e, t)
  simp [andThen, h]

end Act
end Rebalance
