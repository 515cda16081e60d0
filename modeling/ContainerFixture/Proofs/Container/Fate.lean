import ContainerFixture.Proofs.Container.Life
import ContainerFixture.Proofs.Engine.Presence

/-!
# What becomes of a container

How the state of a container that was given up relates to what the engine, if it answers honestly,
still knows of it (`Fate`). A container that the engine still knows was left to it on purpose, or a
call that should have stopped or removed it failed and the failure was reported.

One fate is not as it should be: a container that the engine removes once it stops, and whose stop
failed, is called removed while it runs.
-/

namespace ContainerFixture

/-- Some stage reported that a container could not be stopped or removed. -/
def Accounts (failures : List (StageFailure ContainerError)) : Prop :=
  ∃ failure ∈ failures, ∃ cause,
    failure.cause = .engine .stop cause ∨ failure.cause = .engine .remove cause

/-- The state of a container that was given up and what the engine knows of it, given the calls made
and the failures reported. -/
inductive Fate (params : Params) (id : ContainerId) (calls : List Exchange)
    (failures : List (StageFailure ContainerError)) : ContainerState → Option Presence → Prop where
  | gone : Fate params id calls failures .removed none
  | created (accounted : Accounts failures) :
    Fate params id calls failures .created (some ⟨params, false⟩)
  | started (accounted : Accounts failures) :
    Fate params id calls failures .started (some ⟨params, true⟩)
  | stopped (accounted : Accounts failures) :
    Fate params id calls failures .stopped (some ⟨params, false⟩)
  | leftToEngine (removesItself : params.autoRemove = true)
      (exits : params.commandType = .exitingImmediately)
      (started : ⟨.start id, .ok ()⟩ ∈ calls) :
    Fate params id calls failures .removed (some ⟨params, true⟩)
  | abandoned (accounted : Accounts failures) (removesItself : params.autoRemove = true)
      (timeout : Duration) (cause : EngineError) (lapsed : cause.isNotFound = false)
      (refused : ⟨.stop id timeout, .error cause⟩ ∈ calls) :
    Fate params id calls failures .removed (some ⟨params, true⟩)

/-- The failures of the stages that were undone. -/
def LifecycleError.undoing {ε : Type} : LifecycleError ε → List (StageFailure ε)
  | .commission _ _ unwinding => unwinding
  | .decommission failures => failures
  | .firstProvision cause => cause.undoing
  | .alreadyFinished | .alreadyCommissioned | .exitHook _ => []

/-- The failures that an outcome reports of the stages that were undone. -/
def Lifecycle.reported {ε α : Type} : Except (LifecycleError ε) α → List (StageFailure ε)
  | .ok _ => []
  | .error error => error.undoing

/-! ### Answers about a container that is known -/

theorem answer_of_known {known : Knowledge} {id : ContainerId} (present : known id ≠ none)
    {answer : Except EngineError Unit}
    (honest : ∀ cause, answer = .error cause → cause.isNotFound = true → known id = none) :
    answer = .ok () ∨ ∃ cause, answer = .error cause ∧ cause.isNotFound = false := by
  cases answer with
  | ok _ => exact Or.inl rfl
  | error cause =>
    refine Or.inr ⟨cause, rfl, eq_false_of_ne_true fun missing => ?_⟩
    exact present (honest cause rfl missing)

theorem stop_answer {known : Knowledge} {id : ContainerId} {timeout : Duration}
    {answer : Except EngineError Unit} (present : known id ≠ none)
    (honest : Exchange.Honest known ⟨.stop id timeout, answer⟩) :
    answer = .ok () ∨ ∃ cause, answer = .error cause ∧ cause.isNotFound = false :=
  answer_of_known present fun cause failed => by
    subst failed
    exact honest

theorem remove_answer {known : Knowledge} {id : ContainerId} {force : Bool}
    {answer : Except EngineError Unit} (present : known id ≠ none)
    (honest : Exchange.Honest known ⟨.remove id force, answer⟩) :
    answer = .ok () ∨ ∃ cause, answer = .error cause ∧ cause.isNotFound = false :=
  answer_of_known present fun cause failed => by
    subst failed
    exact honest

/-- A call that failed to stop or remove a container is accounted for where it is reported. -/
theorem accounts_of_lapsed (key : StageKey) {request : EngineCall} {cause : EngineError}
    {calls : List Exchange} {failures : List (StageFailure ContainerError)}
    (made : ⟨request, .error cause⟩ ∈ calls) (lapsed : cause.isNotFound = false)
    (releases : request.operation = .stop ∨ request.operation = .remove)
    (reported : ∀ failure ∈ lapses key calls, failure ∈ failures) : Accounts failures := by
  have told : (⟨key, .engine request.operation cause⟩ : StageFailure ContainerError) ∈
      lapses key calls := by
    refine List.mem_map_of_mem (List.mem_filterMap.mpr ⟨_, made, ?_⟩)
    simp [Exchange.lapse?, lapsed]
  refine ⟨_, reported _ told, cause, ?_⟩
  rcases releases with stop | remove
  · exact Or.inl (by rw [stop])
  · exact Or.inr (by rw [remove])

namespace Params

variable {params : Params} {id : ContainerId} {known : Knowledge}

/-- A running container is stopped, or it runs on: it is not to be stopped, or its stop failed. -/
theorem stopping_known {stop : Except EngineError Unit} (running : known id = some ⟨params, true⟩)
    (consistent : known.Consistent (params.stopping id stop)) :
    (params.stoppedState stop = .stopped ∧ known.after (params.stopping id stop) id =
      if params.autoRemove then none else some ⟨params, false⟩) ∨
    (params.stoppedState stop = .started ∧
      known.after (params.stopping id stop) id = some ⟨params, true⟩ ∧
      (params.commandType = .exitingImmediately ∨
        ∃ timeout cause, ⟨.stop id timeout, .error cause⟩ ∈ params.stopping id stop ∧
          cause.isNotFound = false)) := by
  cases kind : params.commandType with
  | exitingImmediately =>
    refine Or.inr ⟨by simp [stoppedState, kind], ?_, Or.inl rfl⟩
    simpa [stopping, kind, Knowledge.after] using running
  | blocking =>
    have call : params.stopping id stop =
        [⟨.stop id (.ofSeconds params.stopTimeout.toNat), stop⟩] := if_pos kind
    rw [call] at consistent ⊢
    rcases stop_answer (by simp [running]) consistent.1 with rfl | ⟨cause, rfl, lapsed⟩
    · refine Or.inl ⟨by simp [stoppedState, kind, settles], ?_⟩
      simp [Knowledge.after, Exchange.learn, running]
    · refine Or.inr ⟨by simp [stoppedState, settles, lapsed], running, Or.inr ?_⟩
      exact ⟨_, cause, List.mem_cons_self, lapsed⟩

/-- A container that is known is removed, or stays as it is. -/
theorem removing_known {removal : Except EngineError Unit}
    (sticky : params.disableAutoRemove = true) (present : known id ≠ none)
    (consistent : known.Consistent (params.removing id removal)) (reached : ContainerState) :
    (params.finalState reached removal = .removed ∧
      known.after (params.removing id removal) id = none) ∨
    (params.finalState reached removal = reached ∧
      known.after (params.removing id removal) = known ∧
      ∃ cause, ⟨.remove id true, .error cause⟩ ∈ params.removing id removal ∧
        cause.isNotFound = false) := by
  have call : params.removing id removal = [⟨.remove id true, removal⟩] := if_pos sticky
  rw [call] at consistent ⊢
  rcases remove_answer present consistent.1 with rfl | ⟨cause, rfl, lapsed⟩
  · refine Or.inl ⟨by simp [finalState, settles], ?_⟩
    simp [Knowledge.after, Exchange.learn]
  · refine Or.inr ⟨by simp [finalState, settles, lapsed, sticky], rfl, ?_⟩
    exact ⟨cause, List.mem_cons_self, lapsed⟩

end Params

namespace ContainerPlan

variable {E : Type} {plan : ContainerPlan E} {id : ContainerId} {calls : List Exchange}
  {failures : List (StageFailure ContainerError)} {state : ContainerState} {known : Knowledge}
  {error : LifecycleError ContainerError} {states : List ContainerState}

/-- What becomes of a container that was created and not started. -/
theorem Withdrawn.fate (withdrawn : plan.Withdrawn id calls failures state)
    (there : known id = some ⟨plan.params, false⟩) (consistent : known.Consistent calls)
    (made : List Exchange) : Fate plan.params id made failures state (known.after calls id) := by
  obtain ⟨removal, others, -⟩ := withdrawn
  rcases remove_answer (by simp [there]) consistent.1 with rfl | ⟨cause, rfl, lapsed⟩
  · have forgotten : known.after [⟨.remove id true, .ok ()⟩] id = none := by
      simp [Knowledge.after, Exchange.learn]
    rw [forgotten]
    exact .gone
  · have kept : known.after [⟨.remove id true, .error cause⟩] id = some ⟨plan.params, false⟩ :=
      there
    have state : settles (.error cause) = false := lapsed
    have made : (⟨.remove id true, .error cause⟩ : Exchange) ∈ [⟨.remove id true, .error cause⟩] :=
      List.mem_cons_self
    rw [kept, state]
    refine .created (accounts_of_lapsed createKey made lapsed (Or.inr rfl) fun failure mem => ?_)
    exact List.mem_append_left _ mem

/-- What becomes of a container that was started. -/
theorem TakenDown.fate (taken : plan.TakenDown id calls failures state)
    (running : known id = some ⟨plan.params, true⟩) (consistent : known.Consistent calls)
    {made : List Exchange} (started : ⟨.start id, .ok ()⟩ ∈ made)
    (all : ∀ exchange ∈ calls, exchange ∈ made) :
    Fate plan.params id made failures state (known.after calls id) := by
  obtain ⟨stop, removal, early, late, -, -⟩ := taken
  obtain ⟨first, second⟩ := Knowledge.consistent_append.mp consistent
  rw [Knowledge.after_append]
  by_cases sticky : plan.params.disableAutoRemove = true
  · -- The engine keeps the container until its removal, whose failure accounts for it.
    have manual : plan.params.autoRemove = false := by simp [Params.autoRemove, sticky]
    have present : known.after (plan.params.stopping id stop) id ≠ none := by
      rcases Params.stopping_known running first with ⟨-, seen⟩ | ⟨-, seen, -⟩ <;>
        simp [seen, manual]
    rcases Params.removing_known sticky present second (plan.params.stoppedState stop) with
      ⟨final, gone⟩ | ⟨final, same, cause, refused, lapsed⟩
    · rw [final, gone]
      exact .gone
    · have accounted : Accounts (lapses createKey (plan.params.removing id removal) ++ early ++
          lapses plan.startKey (plan.params.stopping id stop) ++ late) := by
        refine accounts_of_lapsed createKey refused lapsed (Or.inr rfl) fun failure mem => ?_
        simp [mem]
      rw [final, same]
      rcases Params.stopping_known running first with ⟨reached, seen⟩ | ⟨reached, seen, -⟩
      · rw [reached, seen, manual, if_neg Bool.false_ne_true]
        exact .stopped accounted
      · rw [reached, seen]
        exact .started accounted
  · -- No call removes the container, which is called removed all the same.
    have auto : plan.params.autoRemove = true := by simpa [Params.autoRemove] using sticky
    have none : plan.params.removing id removal = [] := if_neg sticky
    have final : plan.params.finalState (plan.params.stoppedState stop) removal = .removed := by
      simp [Params.finalState, sticky]
    rw [none, final]
    rcases Params.stopping_known running first with ⟨-, seen⟩ | ⟨-, seen, why⟩
    · rw [auto, if_pos rfl] at seen
      rw [Knowledge.after, List.foldl_nil, seen]
      exact .gone
    · rw [Knowledge.after, List.foldl_nil, seen]
      rcases why with exits | ⟨timeout, cause, refused, lapsed⟩
      · exact .leftToEngine auto exits started
      · refine .abandoned ?_ auto timeout cause lapsed (all _ (List.mem_append_left _ refused))
        refine accounts_of_lapsed plan.startKey refused lapsed (Or.inl rfl) fun failure mem => ?_
        simp [mem]

/-! ### From the creation on -/

theorem Withdrawn.creations (withdrawn : plan.Withdrawn id calls failures state) :
    ContainerFixture.creations calls = [] := by
  obtain ⟨removal, others, -⟩ := withdrawn
  rfl

theorem TakenDown.creations (taken : plan.TakenDown id calls failures state) :
    ContainerFixture.creations calls = [] := by
  obtain ⟨stop, removal, early, late, -, -⟩ := taken
  unfold Params.stopping Params.removing
  split <;> split <;> rfl

/-- What becomes of a container from its creation to the end of the decommissioning. -/
theorem TakenDown.fate_of_created {creation : Creation}
    (taken : plan.TakenDown creation.id calls failures state)
    (consistent : known.Consistent
      (⟨.create plan.params, .ok creation⟩ :: ⟨.start creation.id, .ok ()⟩ :: calls)) :
    Fate plan.params creation.id
      (⟨.create plan.params, .ok creation⟩ :: ⟨.start creation.id, .ok ()⟩ :: calls) failures state
      (known.after (⟨.create plan.params, .ok creation⟩ :: ⟨.start creation.id, .ok ()⟩ :: calls)
        creation.id) := by
  obtain ⟨-, -, consistent⟩ := consistent
  refine taken.fate ?_ consistent (by simp) fun exchange mem => by simp [mem]
  simp [Exchange.learn]

/-- What becomes of the container of a commissioning that fails, if there was one. -/
theorem Broken.fate (broken : plan.Broken error calls states)
    (consistent : known.Consistent calls) :
    (states = [] ∧ ContainerFixture.creations calls = []) ∨
    ∃ creation state, states = [state] ∧ ContainerFixture.creations calls = [creation] ∧
      Fate plan.params creation.id calls error.undoing state
        (known.after calls creation.id) := by
  cases broken with
  | invalid => exact Or.inl ⟨rfl, rfl⟩
  | uncreated => exact Or.inl ⟨rfl, rfl⟩
  | unprepared creation key cause calls unwinding state valid inside withdrawn =>
    refine Or.inr ⟨creation, state, rfl, congrArg (creation :: ·) withdrawn.creations, ?_⟩
    refine withdrawn.fate ?_ consistent.2 _
    simp [Exchange.learn]
  | unstarted creation cause calls unwinding state valid withdrawn =>
    refine Or.inr ⟨creation, state, rfl, congrArg (creation :: ·) withdrawn.creations, ?_⟩
    refine withdrawn.fate ?_ consistent.2.2 _
    simp [Exchange.learn]
  | unready creation key cause calls unwinding state valid inside taken =>
    refine Or.inr ⟨creation, state, rfl, congrArg (creation :: ·) taken.creations, ?_⟩
    exact taken.fate_of_created consistent

end ContainerPlan

end ContainerFixture
