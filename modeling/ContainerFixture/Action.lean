/-!
# Actions

An action is a step over a state that may fail. A failure keeps the changes made before it: what was
done to the outside world stays done, and undoing it is the business of whoever sees the failure.
-/

namespace ContainerFixture

/-- A step over a state `σ`: it answers an `α` or fails with an `ε`, and leaves a state either
way. -/
def Action (σ ε α : Type) : Type := σ → Except ε α × σ

namespace Action

variable {σ τ ε ε' α β : Type}

/-- Answers `a` and leaves the state alone. -/
protected def pure (a : α) : Action σ ε α := fun s => (.ok a, s)

/-- Runs one action and, when it succeeds, the action chosen by its answer. -/
protected def bind (step : Action σ ε α) (next : α → Action σ ε β) : Action σ ε β := fun s =>
  match step s with
  | (.ok a, s) => next a s
  | (.error cause, s) => (.error cause, s)

instance : Monad (Action σ ε) where
  pure := Action.pure
  bind := Action.bind

def fail (cause : ε) : Action σ ε α := fun s => (.error cause, s)

def read (view : σ → α) : Action σ ε α := fun s => (.ok (view s), s)

def change (f : σ → σ) : Action σ ε Unit := fun s => (.ok (), f s)

/-- Answers what was already decided. -/
def ofExcept (outcome : Except ε α) : Action σ ε α := fun s => (outcome, s)

/-- The same action with its failures restated. -/
def mapError (f : ε → ε') (step : Action σ ε α) : Action σ ε' α := fun s =>
  let (outcome, s) := step s
  (outcome.mapError f, s)

/-- The same action, which answers how it went and does not fail. -/
def attempt (step : Action σ ε α) : Action σ ε' (Except ε α) := fun s =>
  let (outcome, s) := step s
  (.ok outcome, s)

/-- The same action, with some of its failures taken for answers. -/
def recover (answer? : ε → Option α) (step : Action σ ε α) : Action σ ε α := fun s =>
  match step s with
  | (.ok a, s) => (.ok a, s)
  | (.error cause, s) =>
    match answer? cause with
    | some a => (.ok a, s)
    | none => (.error cause, s)

/-- An action on a part of a larger state. -/
def within (view : τ → σ) (put : σ → τ → τ) (step : Action σ ε α) : Action τ ε α := fun t =>
  let (outcome, s) := step (view t)
  (outcome, put s t)

@[simp] theorem pure_apply (a : α) (s : σ) : (pure a : Action σ ε α) s = (.ok a, s) := rfl

@[simp] theorem bind_apply (step : Action σ ε α) (next : α → Action σ ε β) (s : σ) :
    (step >>= next) s = match step s with
      | (.ok a, s) => next a s
      | (.error cause, s) => (.error cause, s) := rfl

instance : LawfulMonad (Action σ ε) := LawfulMonad.mk' _
  (by
    intro α step
    funext s
    show (match step s with
      | (.ok a, s) => (.ok a, s)
      | (.error cause, s) => (.error cause, s)) = step s
    rcases step s with ⟨_ | _, _⟩ <;> rfl)
  (by intros; rfl)
  (by
    intro α β γ step next last
    funext s
    simp only [bind_apply]
    rcases step s with ⟨_ | _, _⟩ <;> rfl)

end Action

end ContainerFixture
