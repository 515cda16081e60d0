import ContainerFixture.Lifecycle

/-!
# The journal of a lifecycle

Which stages a lifecycle calls, in which order, and how each call went. A watched stage does what
the stage does and enters the call in a journal that is carried beside the world. A lifecycle over
watched stages then keeps the journal of its calls, and watching changes nothing else
(`commission_watched`, `decommission_watched`).
-/

namespace ContainerFixture

variable {σ ε π : Type}

/-- One call of a stage, told by the place of the stage in its chain and by whether it succeeded. -/
inductive StageCall where
  | commission (index : Nat) (succeeded : Bool)
  | decommission (index : Nat) (succeeded : Bool)
deriving DecidableEq, Repr

namespace StageCall

/-- Commissionings that all succeeded. -/
def commissions (indices : List Nat) : List StageCall := indices.map (commission · true)

/-- Decommissionings with these outcomes. -/
def decommissions (indices : List Nat) (outcomes : List Bool) : List StageCall :=
  List.zipWith decommission indices outcomes

end StageCall

/-- The same action beside a journal, in which it enters how it went. -/
def Action.journaled {α : Type} (entry : Bool → StageCall) (step : Action σ ε α) :
    Action (σ × List StageCall) ε α := fun (s, journal) =>
  let (outcome, s) := step s
  (outcome, s, journal ++ [entry outcome.isOk])

/-- The stage at a place of a chain, with its calls entered in a journal. -/
def Stage.watched (index : Nat) (stage : Stage σ ε π) : Stage (σ × List StageCall) ε π where
  name := stage.name
  commission input := (stage.commission input).journaled (.commission index)
  decommission product := (stage.decommission product).journaled (.decommission index)

@[simp] theorem Stage.watched_commission (index : Nat) (stage : Stage σ ε π) (input : Option π)
    (s : σ) (journal : List StageCall) :
    (stage.watched index).commission input (s, journal) = ((stage.commission input s).1,
      (stage.commission input s).2,
      journal ++ [.commission index (stage.commission input s).1.isOk]) := rfl

@[simp] theorem Stage.watched_decommission (index : Nat) (stage : Stage σ ε π) (product : π)
    (s : σ) (journal : List StageCall) :
    (stage.watched index).decommission product (s, journal) =
      ((stage.decommission product s).1, (stage.decommission product s).2,
        journal ++ [.decommission index (stage.decommission product s).1.isOk]) := rfl

namespace CommittedStage

def watched (committed : CommittedStage σ ε π) : CommittedStage (σ × List StageCall) ε π :=
  ⟨committed.index, committed.stage.watched committed.index, committed.product⟩

/-- A sweep calls every stage of its stack once, newest first, and goes on when one fails. -/
theorem sweep_watched (stack : List (CommittedStage σ ε π)) (s : σ) :
    ∃ outcomes : List Bool, outcomes.length = stack.length ∧ ∀ journal,
      sweep (stack.map watched) (s, journal) =
        ((sweep stack s).1, (sweep stack s).2,
          journal ++ StageCall.decommissions (stack.map index) outcomes) := by
  induction stack generalizing s with
  | nil => exact ⟨[], rfl, fun journal => by simp [sweep, StageCall.decommissions]⟩
  | cons newest older ih =>
    cases released : newest.stage.decommission newest.product s with
    | mk outcome after =>
      obtain ⟨outcomes, length, swept⟩ := ih after
      refine ⟨outcome.isOk :: outcomes, by simp [length], fun journal => ?_⟩
      simp only [List.map_cons, sweep, watched, Stage.watched_decommission, released]
      rw [swept]
      cases outcome <;> simp [StageCall.decommissions, key, Stage.watched]

end CommittedStage

namespace Lifecycle

/-- The places of the committed stages, in the order in which they were committed. -/
def indices (l : Lifecycle σ ε π) : List Nat := (l.committed.map CommittedStage.index).reverse

/-- A lifecycle that keeps a journal of its calls. -/
def watched (l : Lifecycle σ ε π) : Lifecycle (σ × List StageCall) ε π where
  stages := l.stages.mapIdx Stage.watched
  committed := l.committed.map CommittedStage.watched

/-- How a pass over the `n` stages from `index` on went, the places it committed, and its calls:
each stage is called once, in order, up to the first that fails. -/
inductive Climbed (index n : Nat) : Progress ε π → List Nat → List StageCall → Prop where
  | whole (product : Option π) :
    Climbed index n (.ok product) (List.range' index n)
      (StageCall.commissions (List.range' index n))
  | stopped (k : Nat) (failure : StageFailure ε) (inside : k < n)
      (place : failure.key.index = index + k) :
    Climbed index n (.error failure) (List.range' index k)
      (StageCall.commissions (List.range' index k) ++ [.commission (index + k) false])

/-- A stage that commits before a pass over the rest makes one pass with it. -/
theorem Climbed.cons {index n : Nat} {progress : Progress ε π} {placed : List Nat}
    {calls : List StageCall} (rest : Climbed (index + 1) n progress placed calls) :
    Climbed index (n + 1) progress (index :: placed) (.commission index true :: calls) := by
  cases rest with
  | whole product => exact .whole product
  | stopped k failure inside place =>
    rw [Nat.add_assoc, Nat.add_comm 1 k] at place ⊢
    exact .stopped (k + 1) failure (by omega) place

/-- A pass over the watched stages is the pass over the stages, with its calls in the journal. -/
theorem climb_watched (index : Nat) (input : Option π) (stack : List (CommittedStage σ ε π))
    (stages : List (Stage σ ε π)) (s : σ) : ∃ placed calls,
      Climbed index stages.length (climb index input stack stages s).1 placed calls ∧
      (climb index input stack stages s).2.1.map CommittedStage.index =
        placed.reverse ++ stack.map CommittedStage.index ∧
      ∀ journal, climb index input (stack.map CommittedStage.watched)
          (stages.mapIdx fun i => Stage.watched (index + i)) (s, journal) =
        ((climb index input stack stages s).1,
          (climb index input stack stages s).2.1.map CommittedStage.watched,
          (climb index input stack stages s).2.2, journal ++ calls) := by
  induction stages generalizing index input stack s with
  | nil =>
    exact ⟨[], [], Climbed.whole input, by simp [climb], fun journal => by simp [climb]⟩
  | cons stage rest ih =>
    cases commissioned : stage.commission input s with
    | mk outcome after =>
      cases outcome with
      | error cause =>
        refine ⟨[], [.commission index false], ?_, by simp [climb, commissioned], fun journal => ?_⟩
        · simp only [climb, commissioned]
          exact Climbed.stopped 0 ⟨⟨index, stage.name⟩, cause⟩ (by simp) rfl
        · simp only [List.mapIdx_cons, climb, Stage.watched_commission, commissioned]
          rfl
      | ok product =>
        -- The rest is commissioned with one more stage on the stack and one more call made.
        obtain ⟨placed, calls, climbed, indices, watched⟩ :=
          ih (index + 1) (some product) (⟨index, stage, product⟩ :: stack) after
        refine ⟨index :: placed, .commission index true :: calls, ?_, ?_, fun journal => ?_⟩
        · simp only [climb, commissioned, List.length_cons]
          exact climbed.cons
        · simpa [climb, commissioned] using indices
        · have moved : (fun i => Stage.watched (σ := σ) (ε := ε) (π := π) (index + (i + 1))) =
              fun i => Stage.watched (index + 1 + i) := by
            funext i
            rw [Nat.add_assoc, Nat.add_comm 1 i]
          have called := watched (journal ++ [.commission index true])
          rw [List.append_assoc] at called
          simp only [List.mapIdx_cons, climb, Nat.add_zero, moved, Stage.watched_commission,
            commissioned]
          exact called

/-- The stage calls that a commissioning makes. -/
def commissionCalls (l : Lifecycle σ ε π) (s : σ) : List StageCall :=
  (l.watched.commission (s, [])).2.2.2

/-- The stage calls that a decommissioning makes. -/
def decommissionCalls (l : Lifecycle σ ε π) (s : σ) : List StageCall :=
  (l.watched.decommission (s, [])).2.2.2

/-- How a commissioning of a chain of `n` stages goes when none is committed: its outcome, the
places committed afterwards, and its calls. Either the whole chain commits, or stage `k` fails and
those before it are undone, newest first, whatever their outcomes. -/
inductive Acquired (n : Nat) :
    Except (LifecycleError ε) (Option π) → List Nat → List StageCall → Prop where
  | whole (product : Option π) :
    Acquired n (.ok product) (List.range n) (StageCall.commissions (List.range n))
  | undone (failed : StageKey) (cause : ε) (unwinding : List (StageFailure ε))
      (outcomes : List Bool) (inside : failed.index < n)
      (complete : outcomes.length = failed.index) :
    Acquired n (.error (.commission failed cause unwinding)) []
      (StageCall.commissions (List.range failed.index) ++ [.commission failed.index false] ++
        StageCall.decommissions (List.range failed.index).reverse outcomes)

theorem commission_taken {l : Lifecycle σ ε π} (taken : l.committed ≠ []) (s : σ) :
    l.commission s = (.error .alreadyCommissioned, l, s) := by
  simp [commission, taken]

private theorem commission_watched_taken {l : Lifecycle σ ε π} (taken : l.committed ≠ [])
    (s : σ) (journal : List StageCall) :
    l.watched.commission (s, journal) = (.error .alreadyCommissioned, l.watched, s, journal) :=
  commission_taken (by simpa [watched] using taken) (s, journal)

private theorem commission_watched_free {l : Lifecycle σ ε π} (free : l.committed = []) (s : σ) :
    ∃ calls, Acquired l.stages.length (l.commission s).1 (l.commission s).2.1.indices calls ∧
      ∀ journal, l.watched.commission (s, journal) = ((l.commission s).1,
        (l.commission s).2.1.watched, (l.commission s).2.2, journal ++ calls) := by
  obtain ⟨placed, calls, climbed, indices, watching⟩ := climb_watched 0 none [] l.stages s
  simp only [List.map_nil, List.append_nil, Nat.zero_add] at indices watching
  cases pass : climb 0 none [] l.stages s with
  | mk progress rest =>
    obtain ⟨stack, after⟩ := rest
    simp only [pass] at climbed indices watching
    cases climbed with
    | whole product =>
      -- Every stage committed, and nothing is undone.
      have done : l.commission s = (.ok product, { l with committed := stack }, after) := by
        simp [commission, free, pass]
      have places : (l.commission s).2.1.indices = List.range l.stages.length := by
        rw [done, Lifecycle.indices, indices, List.reverse_reverse, List.range_eq_range']
      refine ⟨StageCall.commissions (List.range l.stages.length), ?_, fun journal => ?_⟩
      · rw [places, done]
        exact .whole product
      · rw [done, List.range_eq_range']
        simp [commission, watched, free, watching]
    | stopped k failure inside place =>
      -- Stage `k` failed, and the stack that the pass left is swept.
      obtain ⟨outcomes, length, swept⟩ := CommittedStage.sweep_watched stack after
      have done : l.commission s = (.error (.commission failure.key failure.cause
          (CommittedStage.sweep stack after).1), { l with committed := [] },
          (CommittedStage.sweep stack after).2) := by
        simp [commission, free, pass]
      have depth : stack.length = k := by
        simpa using congrArg List.length indices
      rw [Nat.zero_add] at place
      subst place
      refine ⟨StageCall.commissions (List.range failure.key.index) ++
        [.commission failure.key.index false] ++
        StageCall.decommissions (List.range failure.key.index).reverse outcomes, ?_,
        fun journal => ?_⟩
      · rw [done]
        exact .undone failure.key failure.cause _ outcomes inside (length.trans depth)
      · rw [done, List.range_eq_range']
        simp [commission, watched, free, watching, swept, indices]

/-- A commissioning under watch is the commissioning, with its calls added to the journal. -/
theorem commission_watched (l : Lifecycle σ ε π) (s : σ) (journal : List StageCall) :
    l.watched.commission (s, journal) = ((l.commission s).1, (l.commission s).2.1.watched,
      (l.commission s).2.2, journal ++ l.commissionCalls s) := by
  by_cases free : l.committed = []
  · obtain ⟨calls, -, watching⟩ := commission_watched_free free s
    have named : l.commissionCalls s = calls := by simp [commissionCalls, watching]
    rw [named, watching]
  · have named : l.commissionCalls s = [] := by
      simp [commissionCalls, commission_watched_taken free]
    simp [named, commission_watched_taken free, commission_taken free]

theorem commissionCalls_taken {l : Lifecycle σ ε π} (taken : l.committed ≠ []) (s : σ) :
    l.commissionCalls s = [] := by
  simp [commissionCalls, commission_watched_taken taken]

/-- A commissioning with nothing committed acquires the whole chain or undoes what it acquired. -/
theorem commission_acquired {l : Lifecycle σ ε π} (free : l.committed = []) (s : σ) :
    Acquired l.stages.length (l.commission s).1 (l.commission s).2.1.indices
      (l.commissionCalls s) := by
  obtain ⟨calls, acquired, watching⟩ := commission_watched_free free s
  have named : l.commissionCalls s = calls := by simp [commissionCalls, watching]
  rw [named]
  exact acquired

theorem commission_stages (l : Lifecycle σ ε π) (s : σ) :
    (l.commission s).2.1.stages = l.stages := by
  simp only [commission]
  split
  · split <;> rfl
  · rfl

@[simp] theorem decommission_committed (l : Lifecycle σ ε π) (s : σ) :
    (l.decommission s).2.1 = { l with committed := [] } := rfl

private theorem decommission_watched_released (l : Lifecycle σ ε π) (s : σ) :
    ∃ outcomes : List Bool, outcomes.length = l.indices.length ∧ ∀ journal,
      l.watched.decommission (s, journal) = ((l.decommission s).1, (l.decommission s).2.1.watched,
        (l.decommission s).2.2,
        journal ++ StageCall.decommissions l.indices.reverse outcomes) := by
  obtain ⟨outcomes, length, swept⟩ := CommittedStage.sweep_watched l.committed s
  refine ⟨outcomes, by simpa [indices] using length, fun journal => ?_⟩
  simp [decommission, watched, swept, indices]

/-- A decommissioning under watch is the decommissioning, with its calls added to the journal. -/
theorem decommission_watched (l : Lifecycle σ ε π) (s : σ) (journal : List StageCall) :
    l.watched.decommission (s, journal) = ((l.decommission s).1, (l.decommission s).2.1.watched,
      (l.decommission s).2.2, journal ++ l.decommissionCalls s) := by
  obtain ⟨outcomes, -, watching⟩ := decommission_watched_released l s
  have named : l.decommissionCalls s = StageCall.decommissions l.indices.reverse outcomes := by
    simp [decommissionCalls, watching]
  rw [named, watching]

/-- A decommissioning calls every committed stage once, newest first, whatever the outcomes. -/
theorem decommissionCalls_released (l : Lifecycle σ ε π) (s : σ) :
    ∃ outcomes : List Bool, outcomes.length = l.indices.length ∧
      l.decommissionCalls s = StageCall.decommissions l.indices.reverse outcomes := by
  obtain ⟨outcomes, length, watching⟩ := decommission_watched_released l s
  exact ⟨outcomes, length, by simp [decommissionCalls, watching]⟩

end Lifecycle

end ContainerFixture
