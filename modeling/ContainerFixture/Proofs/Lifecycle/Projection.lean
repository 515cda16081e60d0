import ContainerFixture.Proofs.Lifecycle.Bracketing

/-!
# Lifecycles over a larger world

## Main result

`Lifecycle.Extends.run`: a lifecycle whose stages extend those of another goes through every run of
calls as the other does. Whatever its world holds beside the world of the other, such as a record of
what was called, makes no difference.

A stage extends another one when it answers alike and changes alike the part of its world that a
view shows.
-/

namespace ContainerFixture

variable {σ τ ε π α : Type} {view : τ → σ}

/-- The larger action answers as the smaller one, and what the view shows of its world changes as
the world of the smaller one. -/
def Action.Extends (view : τ → σ) (large : Action τ ε α) (small : Action σ ε α) : Prop :=
  ∀ t, small (view t) = ((large t).1, view (large t).2)

/-- Both calls of the larger stage extend those of the smaller one. -/
structure Stage.Extends (view : τ → σ) (large : Stage τ ε π) (small : Stage σ ε π) : Prop where
  name : large.name = small.name
  commission : ∀ input, (large.commission input).Extends view (small.commission input)
  decommission : ∀ product, (large.decommission product).Extends view (small.decommission product)

namespace CommittedStage

structure Extends (view : τ → σ) (large : CommittedStage τ ε π) (small : CommittedStage σ ε π) :
    Prop where
  index : large.index = small.index
  product : large.product = small.product
  stage : large.stage.Extends view small.stage

theorem Extends.key {large : CommittedStage τ ε π} {small : CommittedStage σ ε π}
    (extends' : large.Extends view small) : large.key = small.key := by
  rw [CommittedStage.key, CommittedStage.key, extends'.index, extends'.stage.name]

theorem sweep_extends {large : List (CommittedStage τ ε π)} {small : List (CommittedStage σ ε π)}
    (related : List.Forall₂ (Extends view) large small) (t : τ) :
    sweep small (view t) = ((sweep large t).1, view (sweep large t).2) := by
  induction related generalizing t with
  | nil => rfl
  | @cons newest newest' older older' first _ ih =>
    have undone := first.stage.decommission newest.product t
    rw [sweep, sweep, ← first.product, ← first.key, undone]
    dsimp only
    rw [ih]
    cases (newest.stage.decommission newest.product t).1 <;> rfl

end CommittedStage

namespace Lifecycle

/-- The stages and the committed stages of the larger lifecycle extend those of the smaller one. -/
structure Extends (view : τ → σ) (large : Lifecycle τ ε π) (small : Lifecycle σ ε π) : Prop where
  stages : List.Forall₂ (Stage.Extends view) large.stages small.stages
  committed : List.Forall₂ (CommittedStage.Extends view) large.committed small.committed

theorem climb_extends {large : List (Stage τ ε π)} {small : List (Stage σ ε π)}
    (related : List.Forall₂ (Stage.Extends view) large small) (index : Nat) (input : Option π)
    {stack : List (CommittedStage τ ε π)} {stack' : List (CommittedStage σ ε π)}
    (below : List.Forall₂ (CommittedStage.Extends view) stack stack') (t : τ) :
    (climb index input stack' small (view t)).1 = (climb index input stack large t).1 ∧
      List.Forall₂ (CommittedStage.Extends view) (climb index input stack large t).2.1
        (climb index input stack' small (view t)).2.1 ∧
      (climb index input stack' small (view t)).2.2 =
        view (climb index input stack large t).2.2 := by
  induction related generalizing index input stack stack' t with
  | nil => exact ⟨rfl, below, rfl⟩
  | @cons stage stage' rest rest' first _ ih =>
    have commissioned := first.commission input t
    rw [climb, climb, commissioned]
    rcases stage.commission input t with ⟨cause | product, after⟩
    · exact ⟨by rw [first.name], below, rfl⟩
    · -- both stages come to lie on the stack, and the rest starts from there
      have grown : List.Forall₂ (CommittedStage.Extends view) (⟨index, stage, product⟩ :: stack)
          (⟨index, stage', product⟩ :: stack') := .cons ⟨rfl, rfl, first⟩ below
      exact ih (index + 1) (some product) grown after

namespace Extends

variable {large : Lifecycle τ ε π} {small : Lifecycle σ ε π}

theorem taken_iff (related : large.Extends view small) :
    large.committed.isEmpty = small.committed.isEmpty := by
  obtain ⟨-, committed⟩ := related
  generalize large.committed = stack at committed
  generalize small.committed = stack' at committed
  cases committed <;> rfl

theorem commission (related : large.Extends view small) (t : τ) :
    (small.commission (view t)).1 = (large.commission t).1 ∧
      (large.commission t).2.1.Extends view (small.commission (view t)).2.1 ∧
      (small.commission (view t)).2.2 = view (large.commission t).2.2 := by
  simp only [Lifecycle.commission, related.taken_iff]
  split
  · obtain ⟨outcomes, stacked, worlds⟩ := climb_extends related.stages 0 none .nil t
    generalize climb 0 none [] large.stages t = pass at *
    generalize climb 0 none [] small.stages (view t) = pass' at *
    obtain ⟨progress, stack, after⟩ := pass
    obtain ⟨progress', stack', after'⟩ := pass'
    dsimp only at outcomes stacked worlds
    subst outcomes worlds
    cases progress' with
    | ok product => exact ⟨rfl, ⟨related.stages, stacked⟩, rfl⟩
    | error failure =>
      -- what either pass left is undone
      dsimp only
      rw [CommittedStage.sweep_extends stacked after]
      exact ⟨rfl, ⟨related.stages, .nil⟩, rfl⟩
  · exact ⟨rfl, related, rfl⟩

theorem decommission (related : large.Extends view small) (t : τ) :
    (small.decommission (view t)).1 = (large.decommission t).1 ∧
      (large.decommission t).2.1.Extends view (small.decommission (view t)).2.1 ∧
      (small.decommission (view t)).2.2 = view (large.decommission t).2.2 := by
  simp only [Lifecycle.decommission, CommittedStage.sweep_extends related.committed t]
  exact ⟨trivial, ⟨related.stages, .nil⟩, trivial⟩

theorem run (related : large.Extends view small) (t : τ) (calls : List LifecycleCall) :
    (large.run t calls).1.Extends view (small.run (view t) calls).1 ∧
      (small.run (view t) calls).2 = view (large.run t calls).2 := by
  induction calls using List.reverseRecOn with
  | nil => exact ⟨related, rfl⟩
  | append_singleton calls call ih =>
    obtain ⟨before, worlds⟩ := ih
    rw [run_concat, run_concat, worlds]
    cases call with
    | commission =>
      obtain ⟨-, after, moved⟩ := before.commission (large.run t calls).2
      exact ⟨after, moved⟩
    | decommission =>
      obtain ⟨-, after, moved⟩ := before.decommission (large.run t calls).2
      exact ⟨after, moved⟩

end Extends

end Lifecycle

end ContainerFixture
