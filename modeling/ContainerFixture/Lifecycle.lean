import ContainerFixture.Lifecycle.Stage

/-!
# Lifecycles

A lifecycle runs a chain of stages. Commissioning is all or nothing: it goes through the stages in
order and, when one fails, decommissions those before it, newest first. Decommissioning goes through
every committed stage, newest first, and goes on when one fails. So the committed stages are none or
all, and no failure is lost.
-/

namespace ContainerFixture

/-- Why a lifecycle, or a provider over one, refused or failed. -/
inductive LifecycleError (ε : Type) where
  /-- A stage failed to commission; `unwinding` are the failures of the stages undone for it. -/
  | commission (stage : StageKey) (cause : ε) (unwinding : List (StageFailure ε))
  /-- Some stages failed to decommission; every committed stage was attempted. -/
  | decommission (failures : List (StageFailure ε))
  | alreadyFinished
  | alreadyCommissioned
  /-- The only provisioning there was failed. -/
  | firstProvision (cause : LifecycleError ε)
  | exitHook (reason : String)
deriving DecidableEq, Repr

namespace LifecycleError

variable {ε : Type}

private def failureList (describe : ε → String) (failures : List (StageFailure ε)) : String :=
  s!"failed for {failures.length} stage(s): "
    ++ "; ".intercalate (failures.map (StageFailure.text describe))

/-- An error as text, given the text of a stage's cause. -/
def message (describe : ε → String) : LifecycleError ε → String
  | commission stage cause unwinding =>
    let undone :=
      if unwinding.isEmpty then "" else s!" (unwinding {failureList describe unwinding})"
    s!"stage {stage.text} failed to commission: {describe cause}{undone}"
  | decommission failures => s!"decommission {failureList describe failures}"
  | alreadyFinished => "lifecycle already finished"
  | alreadyCommissioned => "lifecycle is already commissioned"
  | firstProvision cause => s!"first provision failed: {cause.message describe}"
  | exitHook reason => s!"exit hook registration failed: {reason}"

/-- The stage whose commissioning failed and its cause, however deep they lie. -/
def commissionFailure? : LifecycleError ε → Option (StageFailure ε)
  | commission stage cause _ => some ⟨stage, cause⟩
  | firstProvision cause => cause.commissionFailure?
  | _ => none

end LifecycleError

/-- A stage that was commissioned, with what it produced. -/
structure CommittedStage (σ ε π : Type) where
  index : Nat
  stage : Stage σ ε π
  product : π

namespace CommittedStage

variable {σ ε π : Type}

def key (committed : CommittedStage σ ε π) : StageKey := ⟨committed.index, committed.stage.name⟩

/-- Decommissions every stage of a stack, newest first, and answers the failures in the order of the
chain. -/
def sweep : List (CommittedStage σ ε π) → σ → List (StageFailure ε) × σ
  | [], s => ([], s)
  | newest :: older, s =>
    let (outcome, s) := newest.stage.decommission newest.product s
    let (failures, s) := sweep older s
    match outcome with
    | .ok () => (failures, s)
    | .error cause => (failures ++ [⟨newest.key, cause⟩], s)

end CommittedStage

/-- A chain of stages and the stack of those commissioned, newest first. -/
structure Lifecycle (σ ε π : Type) where
  stages : List (Stage σ ε π)
  committed : List (CommittedStage σ ε π) := []

namespace Lifecycle

variable {σ ε π : Type}

/-- How far a pass over the chain came: the last product, or the stage that failed and its cause. -/
abbrev Progress (ε π : Type) := Except (StageFailure ε) (Option π)

/-- Commissions the stages, the first of which stands at `index`, on top of a stack. It stops at the
first failure and keeps the stack reached by then. -/
def climb (index : Nat) (input : Option π) (stack : List (CommittedStage σ ε π)) :
    List (Stage σ ε π) → σ → Progress ε π × List (CommittedStage σ ε π) × σ
  | [], s => (.ok input, stack, s)
  | stage :: rest, s =>
    match stage.commission input s with
    | (.ok product, s) => climb (index + 1) (some product) (⟨index, stage, product⟩ :: stack) rest s
    | (.error cause, s) => (.error ⟨⟨index, stage.name⟩, cause⟩, stack, s)

/-- Commissions the chain and answers the product of its last stage, which an empty chain does not
have. On a failure the stages before it are undone. -/
def commission (l : Lifecycle σ ε π) (s : σ) :
    Except (LifecycleError ε) (Option π) × Lifecycle σ ε π × σ :=
  if l.committed.isEmpty then
    match climb 0 none [] l.stages s with
    | (.ok product, stack, s) => (.ok product, { l with committed := stack }, s)
    | (.error failure, stack, s) =>
      let (unwinding, s) := CommittedStage.sweep stack s
      (.error (.commission failure.key failure.cause unwinding), { l with committed := [] }, s)
  else (.error .alreadyCommissioned, l, s)

/-- Decommissions every committed stage and reports all failures together. -/
def decommission (l : Lifecycle σ ε π) (s : σ) :
    Except (LifecycleError ε) Unit × Lifecycle σ ε π × σ :=
  let (failures, s) := CommittedStage.sweep l.committed s
  let outcome := if failures.isEmpty then .ok () else .error (.decommission failures)
  (outcome, { l with committed := [] }, s)

def stageNames (l : Lifecycle σ ε π) : List String := l.stages.map Stage.name

end Lifecycle

end ContainerFixture
