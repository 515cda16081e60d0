import ContainerFixture.Proofs.Lifecycle.Projection

/-!
# Histories of a lifecycle

What the stages of a lifecycle do, call by call: which stage was called, why it failed if it did,
and what a view then shows of the world. The journal of a lifecycle tells less, as it is the same
for all worlds in which the same calls succeed.

## Main result

`Lifecycle.run_observed`: a lifecycle under observation goes through every run of calls as it does
unobserved.
-/

namespace ContainerFixture

variable {σ ε π ν α : Type}

/-- A call of a stage: its place in the chain, its failure, and what was shown of the world after
it. -/
structure StageRun (ε ν : Type) where
  index : Nat
  failure : Option ε
  shown : ν
deriving DecidableEq, Repr

/-- The same action beside a history, in which it enters how it went. -/
def Action.observed (view : σ → ν) (index : Nat) (step : Action σ ε α) :
    Action (σ × List (StageRun ε ν)) ε α := fun (s, history) =>
  let (outcome, s) := step s
  let failure := match outcome with
    | .ok _ => none
    | .error cause => some cause
  (outcome, s, history ++ [⟨index, failure, view s⟩])

theorem Action.observed_of_ok {view : σ → ν} {index : Nat} {step : Action σ ε α} {s after : σ}
    {a : α} (done : step s = (.ok a, after)) (history : List (StageRun ε ν)) :
    step.observed view index (s, history) =
      (.ok a, after, history ++ [⟨index, none, view after⟩]) := by
  simp only [Action.observed, done]

theorem Action.observed_of_error {view : σ → ν} {index : Nat} {step : Action σ ε α} {s after : σ}
    {cause : ε} (failed : step s = (.error cause, after)) (history : List (StageRun ε ν)) :
    step.observed view index (s, history) =
      (.error cause, after, history ++ [⟨index, some cause, view after⟩]) := by
  simp only [Action.observed, failed]

/-- The stage at a place of a chain, with its calls entered in a history. -/
def Stage.observed (view : σ → ν) (index : Nat) (stage : Stage σ ε π) :
    Stage (σ × List (StageRun ε ν)) ε π where
  name := stage.name
  commission input := (stage.commission input).observed view index
  decommission product := (stage.decommission product).observed view index

theorem Stage.observed_extends (view : σ → ν) (index : Nat) (stage : Stage σ ε π) :
    (stage.observed view index).Extends Prod.fst stage where
  name := rfl
  commission _ _ := rfl
  decommission _ _ := rfl

namespace Lifecycle

/-- The stages of a chain, the first of which stands at `index`, under observation. -/
def observedFrom (view : σ → ν) (index : Nat) :
    List (Stage σ ε π) → List (Stage (σ × List (StageRun ε ν)) ε π)
  | [] => []
  | stage :: rest => stage.observed view index :: observedFrom view (index + 1) rest

theorem length_observedFrom (view : σ → ν) (index : Nat) (stages : List (Stage σ ε π)) :
    (observedFrom view index stages).length = stages.length := by
  induction stages generalizing index with
  | nil => rfl
  | cons stage rest ih => rw [observedFrom, List.length_cons, ih, List.length_cons]

theorem observedFrom_append (view : σ → ν) (index : Nat) (front rest : List (Stage σ ε π)) :
    observedFrom view index (front ++ rest) =
      observedFrom view index front ++ observedFrom view (index + front.length) rest := by
  induction front generalizing index with
  | nil => rfl
  | cons stage front ih =>
    rw [List.cons_append, observedFrom, ih, observedFrom, List.length_cons, Nat.add_assoc,
      Nat.add_comm 1, List.cons_append]

theorem mem_observedFrom {view : σ → ν} {index : Nat} {stages : List (Stage σ ε π)}
    {stage : Stage (σ × List (StageRun ε ν)) ε π} (mem : stage ∈ observedFrom view index stages) :
    ∃ inner ∈ stages, ∃ place, index ≤ place ∧ place < index + stages.length ∧
      stage = inner.observed view place := by
  induction stages generalizing index with
  | nil => cases mem
  | cons first rest ih =>
    rw [List.length_cons]
    rcases List.mem_cons.mp mem with rfl | later
    · exact ⟨first, List.mem_cons_self, index, by omega, by omega, rfl⟩
    · obtain ⟨inner, inRest, place, above, below, same⟩ := ih later
      exact ⟨inner, List.mem_cons_of_mem _ inRest, place, by omega, by omega, same⟩

theorem observedFrom_extends (view : σ → ν) (index : Nat) (stages : List (Stage σ ε π)) :
    List.Forall₂ (Stage.Extends Prod.fst) (observedFrom view index stages) stages := by
  induction stages generalizing index with
  | nil => exact .nil
  | cons stage rest ih => exact .cons (stage.observed_extends view index) (ih (index + 1))

/-- What the stages of a chain do over a series of calls on a lifecycle. -/
def history (view : σ → ν) (stages : List (Stage σ ε π)) (s : σ) (calls : List LifecycleCall) :
    List (StageRun ε ν) :=
  (run { stages := observedFrom view 0 stages } (s, []) calls).2.2

theorem run_observed (view : σ → ν) (stages : List (Stage σ ε π)) (s : σ)
    (calls : List LifecycleCall) :
    run { stages } s calls =
      ({ stages, committed := (run { stages } s calls).1.committed },
        (run { stages := observedFrom view 0 stages } (s, []) calls).2.1) := by
  have related : Extends Prod.fst { stages := observedFrom view 0 stages } { stages } :=
    ⟨observedFrom_extends view 0 stages, .nil⟩
  obtain ⟨-, worlds⟩ := related.run (s, []) calls
  have chain := run_stages { stages } s calls
  ext1
  · cases lifecycle : (run { stages } s calls).1
    rw [lifecycle] at chain
    cases chain
    rfl
  · exact worlds

end Lifecycle

end ContainerFixture
