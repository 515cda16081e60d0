import ContainerFixture.Proofs.Lifecycle.Journal
import Mathlib.Data.List.Induction

/-!
# Staged acquisition

Main result: `run_staged`. Over any run of calls on a lifecycle the committed stages are none or
all, and the journal is a series of brackets: each decommissioning closes the newest commissioning
that is still open, so no stage is released twice and none is released out of order.

The invariant of a run is `Nested`, which relates the journal to the stack of committed stages. Each
call preserves it by what the journal of one call can be (`Acquired`, `decommissionCalls_released`).
-/

namespace ContainerFixture

variable {σ ε π : Type}

/-- Whether a call decommissions the stage at a place. -/
def StageCall.releases (place : Nat) : StageCall → Bool
  | commission _ _ => false
  | decommission index _ => index = place

/-- A journal in which every decommissioning closes the newest commissioning still open, with the
places left open, newest first. -/
inductive Nested : List StageCall → List Nat → Prop where
  | nil : Nested [] []
  | acquired {journal : List StageCall} {stack : List Nat} (index : Nat)
      (before : Nested journal stack) :
    Nested (journal ++ [.commission index true]) (index :: stack)
  | refused {journal : List StageCall} {stack : List Nat} (index : Nat)
      (before : Nested journal stack) :
    Nested (journal ++ [.commission index false]) stack
  | released {journal : List StageCall} {stack : List Nat} (index : Nat) (succeeded : Bool)
      (before : Nested journal (index :: stack)) :
    Nested (journal ++ [.decommission index succeeded]) stack

namespace Nested

theorem commissions {journal : List StageCall} {stack : List Nat} (before : Nested journal stack)
    (indices : List Nat) :
    Nested (journal ++ StageCall.commissions indices) (indices.reverse ++ stack) := by
  induction indices generalizing journal stack with
  | nil => simpa [StageCall.commissions] using before
  | cons index rest ih => simpa [StageCall.commissions] using ih (before.acquired index)

theorem decommissions {journal : List StageCall} {stack indices : List Nat} {outcomes : List Bool}
    (complete : outcomes.length = indices.length) (before : Nested journal (indices ++ stack)) :
    Nested (journal ++ StageCall.decommissions indices outcomes) stack := by
  induction indices generalizing journal outcomes with
  | nil => simpa [StageCall.decommissions] using before
  | cons index rest ih =>
    cases outcomes with
    | nil => simp at complete
    | cons outcome outcomes =>
      have shorter : outcomes.length = rest.length := by simpa using complete
      simpa [StageCall.decommissions] using ih shorter (before.released index outcome)

/-- Every successful commissioning of a stage was closed once, but for those still open. -/
theorem count_commission {journal : List StageCall} {stack : List Nat}
    (nested : Nested journal stack) (place : Nat) :
    journal.count (.commission place true) =
      journal.countP (StageCall.releases place) + stack.count place := by
  induction nested with
  | nil => rfl
  | acquired index _ ih =>
    by_cases same : index = place
    · subst same
      simp [StageCall.releases, ih]
      omega
    · simp [StageCall.releases, ih, same]
  | refused index _ ih => simpa [StageCall.releases] using ih
  | released index succeeded _ ih =>
    by_cases same : index = place
    · subst same
      simp [StageCall.releases, ih]
      omega
    · simp [StageCall.releases, ih, same]

end Nested

/-- A call on a lifecycle. -/
inductive LifecycleCall where
  | commission
  | decommission
deriving DecidableEq, Repr

namespace Lifecycle

/-! ### Runs -/

/-- What a call leaves of a lifecycle and its world. -/
def perform (l : Lifecycle σ ε π) (s : σ) : LifecycleCall → Lifecycle σ ε π × σ
  | .commission => (l.commission s).2
  | .decommission => (l.decommission s).2

/-- The stage calls that a call makes. -/
def stageCalls (l : Lifecycle σ ε π) (s : σ) : LifecycleCall → List StageCall
  | .commission => l.commissionCalls s
  | .decommission => l.decommissionCalls s

/-- What a series of calls leaves of a lifecycle and its world. -/
def run (l : Lifecycle σ ε π) (s : σ) (calls : List LifecycleCall) : Lifecycle σ ε π × σ :=
  calls.foldl (fun (l, s) call => l.perform s call) (l, s)

/-- The journal of a series of calls. -/
def journal (l : Lifecycle σ ε π) (s : σ) (calls : List LifecycleCall) : List StageCall :=
  (l.watched.run (s, []) calls).2.2

theorem run_concat (l : Lifecycle σ ε π) (s : σ) (calls : List LifecycleCall)
    (call : LifecycleCall) :
    l.run s (calls ++ [call]) = (l.run s calls).1.perform (l.run s calls).2 call := by
  simp [run]

theorem perform_watched (l : Lifecycle σ ε π) (s : σ) (journal : List StageCall)
    (call : LifecycleCall) :
    l.watched.perform (s, journal) call = ((l.perform s call).1.watched, (l.perform s call).2,
      journal ++ l.stageCalls s call) := by
  cases call with
  | commission => simp [perform, stageCalls, commission_watched]
  | decommission => simp [perform, stageCalls, decommission_watched]

/-- A run under watch is the run, beside its journal. -/
theorem run_watched (l : Lifecycle σ ε π) (s : σ) (calls : List LifecycleCall) :
    l.watched.run (s, []) calls =
      ((l.run s calls).1.watched, (l.run s calls).2, l.journal s calls) := by
  induction calls using List.reverseRecOn with
  | nil => rfl
  | append_singleton calls call ih =>
    rw [journal, run_concat l.watched, ih, perform_watched, run_concat l]

theorem journal_concat (l : Lifecycle σ ε π) (s : σ) (calls : List LifecycleCall)
    (call : LifecycleCall) :
    l.journal s (calls ++ [call]) =
      l.journal s calls ++ (l.run s calls).1.stageCalls (l.run s calls).2 call := by
  rw [journal, run_concat, run_watched, perform_watched]

theorem perform_stages (l : Lifecycle σ ε π) (s : σ) (call : LifecycleCall) :
    (l.perform s call).1.stages = l.stages := by
  cases call with
  | commission => exact commission_stages l s
  | decommission => rfl

theorem run_stages (l : Lifecycle σ ε π) (s : σ) (calls : List LifecycleCall) :
    (l.run s calls).1.stages = l.stages := by
  induction calls using List.reverseRecOn with
  | nil => rfl
  | append_singleton calls call ih => rw [run_concat, perform_stages, ih]

/-! ### What every call preserves -/

theorem committed_eq_nil_iff (l : Lifecycle σ ε π) : l.committed = [] ↔ l.indices = [] := by
  simp [indices]

/-- The committed stages are none, or the whole chain in its order. -/
def AllOrNone (l : Lifecycle σ ε π) : Prop :=
  l.indices = [] ∨ l.indices = List.range l.stages.length

theorem AllOrNone.nodup {l : Lifecycle σ ε π} (upheld : l.AllOrNone) : l.indices.Nodup := by
  rcases upheld with none | all
  · rw [none]
    exact List.nodup_nil
  · rw [all]
    exact List.nodup_range

theorem Acquired.allOrNone {n : Nat} {outcome : Except (LifecycleError ε) (Option π)}
    {placed : List Nat} {calls : List StageCall} (acquired : Acquired n outcome placed calls) :
    placed = [] ∨ placed = List.range n := by
  cases acquired with
  | whole product => exact Or.inr rfl
  | undone => exact Or.inl rfl

theorem Acquired.nested {n : Nat} {outcome : Except (LifecycleError ε) (Option π)}
    {placed : List Nat} {calls journal : List StageCall}
    (acquired : Acquired n outcome placed calls) (before : Nested journal []) :
    Nested (journal ++ calls) placed.reverse := by
  cases acquired with
  | whole product => simpa using before.commissions (List.range n)
  | undone failed cause unwinding outcomes inside complete =>
    -- What was opened before the failure is closed in the opposite order.
    have climbed := (before.commissions (List.range failed.index)).refused failed.index
    have swept : Nested _ [] := climbed.decommissions (by simpa using complete)
    simpa using swept

theorem perform_allOrNone {l : Lifecycle σ ε π} (upheld : l.AllOrNone) (s : σ)
    (call : LifecycleCall) : (l.perform s call).1.AllOrNone := by
  cases call with
  | decommission => exact Or.inl rfl
  | commission =>
    by_cases free : l.committed = []
    · have places := (commission_acquired free s).allOrNone
      rwa [AllOrNone, perform, commission_stages]
    · simpa only [perform, commission_taken free] using upheld

/-- Every call extends the journal of the committed stages to that of the stages it leaves. -/
theorem perform_nested {l : Lifecycle σ ε π} {journal : List StageCall}
    (nested : Nested journal l.indices.reverse) (s : σ) (call : LifecycleCall) :
    Nested (journal ++ l.stageCalls s call) (l.perform s call).1.indices.reverse := by
  cases call with
  | decommission =>
    obtain ⟨outcomes, complete, calls⟩ := decommissionCalls_released l s
    simp only [stageCalls, calls]
    apply Nested.decommissions
    · simpa using complete
    · simpa [perform, indices] using nested
  | commission =>
    by_cases free : l.committed = []
    · rw [(committed_eq_nil_iff l).mp free] at nested
      exact (commission_acquired free s).nested nested
    · simpa [perform, stageCalls, commission_taken free, commissionCalls_taken free] using nested

/-! ### Main result -/

/-- What holds of a lifecycle between calls, with the journal so far, and what its next call does.
-/
structure Staged (l : Lifecycle σ ε π) (s : σ) (journal : List StageCall) : Prop where
  -- The committed stages are none, or the whole chain in its order.
  all_or_none : l.AllOrNone
  -- With none committed, a commissioning acquires the whole chain or undoes what it acquired.
  acquires : l.indices = [] → Acquired l.stages.length (l.commission s).1
    (l.commission s).2.1.indices (l.commissionCalls s)
  -- With stages committed, a commissioning is refused: it calls no stage and changes nothing.
  refuses : l.indices ≠ [] →
    l.commission s = (.error .alreadyCommissioned, l, s) ∧ l.commissionCalls s = []
  -- A decommissioning calls each committed stage once, newest first, whatever the outcomes.
  releases : ∃ outcomes : List Bool, outcomes.length = l.indices.length ∧
    l.decommissionCalls s = StageCall.decommissions l.indices.reverse outcomes
  -- It leaves no stage committed, so that a second one succeeds and calls nothing.
  releases_once : (l.decommission s).2.1.indices = [] ∧
    ∀ later, ((l.decommission s).2.1.decommission later).1 = .ok () ∧
      (l.decommission s).2.1.decommissionCalls later = []
  -- Every decommissioning so far closed the newest commissioning that was open.
  nested : Nested journal l.indices.reverse
  -- So each successful commissioning of a stage was closed once, but for one that is open.
  closed : ∀ place, journal.count (.commission place true) =
    journal.countP (StageCall.releases place) + if place ∈ l.indices then 1 else 0

theorem decommissionCalls_none {l : Lifecycle σ ε π} (free : l.indices = []) (s : σ) :
    l.decommissionCalls s = [] := by
  obtain ⟨outcomes, -, calls⟩ := decommissionCalls_released l s
  rw [calls, free]
  rfl

theorem run_allOrNone (stages : List (Stage σ ε π)) (s : σ) (calls : List LifecycleCall) :
    (run { stages } s calls).1.AllOrNone := by
  induction calls using List.reverseRecOn with
  | nil => exact Or.inl rfl
  | append_singleton calls call ih =>
    rw [run_concat]
    exact perform_allOrNone ih _ call

theorem run_nested (stages : List (Stage σ ε π)) (s : σ) (calls : List LifecycleCall) :
    Nested (journal { stages } s calls) (run { stages } s calls).1.indices.reverse := by
  induction calls using List.reverseRecOn with
  | nil => exact .nil
  | append_singleton calls call ih =>
    rw [run_concat, journal_concat]
    exact perform_nested ih _ call

/-- Acquisition in stages: after every run of calls on a lifecycle over any chain, the committed
stages are none or all, each further call goes as `Staged` says and adds exactly its own stage calls
to the journal, and the journal is well nested. -/
theorem run_staged (stages : List (Stage σ ε π)) (s : σ) (calls : List LifecycleCall) :
    let l := (run { stages } s calls).1
    let reached := (run { stages } s calls).2
    l.stages = stages ∧ l.Staged reached (journal { stages } s calls) ∧
      ∀ call, journal { stages } s (calls ++ [call]) =
        journal { stages } s calls ++ l.stageCalls reached call := by
  intro l reached
  have places : l.AllOrNone := run_allOrNone stages s calls
  have nested := run_nested stages s calls
  refine ⟨run_stages _ s calls, ?_, fun call => journal_concat _ s calls call⟩
  refine
    { all_or_none := places
      acquires := fun free => commission_acquired ((committed_eq_nil_iff l).mpr free) reached
      refuses := fun taken => ?_
      releases := decommissionCalls_released l reached
      releases_once := ⟨rfl, fun later => ⟨rfl, decommissionCalls_none rfl later⟩⟩
      nested := nested
      closed := fun place => ?_ }
  · have held : l.committed ≠ [] := fun free => taken ((committed_eq_nil_iff l).mp free)
    exact ⟨commission_taken held reached, commissionCalls_taken held reached⟩
  · rw [nested.count_commission place, List.count_reverse]
    exact congrArg _ (places.nodup.count)

end Lifecycle

end ContainerFixture
