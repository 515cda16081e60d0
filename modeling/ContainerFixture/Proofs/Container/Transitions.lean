import ContainerFixture.Proofs.Container.Life
import ContainerFixture.Proofs.Lifecycle.History
import Mathlib.Data.List.Chain

/-!
# Legal transitions

## Main result

`ContainerPlan.transitions_legal`: over any engine and any series of calls on the lifecycle of a
plan, the stages that create and start the container are never refused a transition, and what a
handle shows from one stage call to the next is a path from its creation along the transitions.

The other stages of the plan may be any that leave the states of the containers alone, as long as
those before the start hand on a container that is still to be started. A handle can be kept, and a
stage that hands on the one of an earlier commissioning has the start refused
(`ContainerPlan.start_refused_of_kept_container`).

## Proof strategy

The engine is called before the state moves, so a refusal would come too late. That it never comes
is an invariant of the run (`Standing`): the stack of committed stages tells in which states the
containers are that its stages will move. It is kept by each phase of a commissioning, and by a
sweep from wherever a phase stopped.
-/

namespace ContainerFixture

open CommittedStage (sweep)

/-! ### States that follow each other -/

namespace ContainerState

/-- One state can be seen after another: nothing happened, or one transition. -/
def Follows (source target : ContainerState) : Prop :=
  source = target ∨ source.canBecome target = true

theorem Follows.of_removed {target : ContainerState} (follows : Follows .removed target) :
    target = .removed := by
  rcases follows with same | moved
  · exact same.symm
  · cases target <;> cases moved

theorem removed_of_isChain {states : List ContainerState}
    (moves : (removed :: states).IsChain Follows) : ∀ state ∈ states, state = .removed := by
  induction states with
  | nil => exact fun _ mem => absurd mem List.not_mem_nil
  | cons next rest ih =>
    obtain ⟨first, others⟩ := List.isChain_cons_cons.mp moves
    obtain rfl := first.of_removed
    intro state mem
    rcases List.mem_cons.mp mem with rfl | later
    · rfl
    · exact ih others state later

/-- The states that a handle shows, one after the other, lead from its creation along the
transitions and not out of the last of them. -/
structure Path (states : List ContainerState) : Prop where
  begins : ∀ first ∈ states.head?, first = .created
  moves : states.IsChain Follows
  ends : ∀ before after, states = before ++ .removed :: after → ∀ state ∈ after, state = .removed

theorem Path.of_moves {states : List ContainerState}
    (begins : ∀ first ∈ states.head?, first = .created) (moves : states.IsChain Follows) :
    Path states where
  begins := begins
  moves := moves
  ends before after split := by
    rw [split] at moves
    exact removed_of_isChain moves.right_of_append

/-- What a stage call may do to the states of all containers: each is followed by the next, and
whatever is new was created. -/
structure Advance (before after : List ContainerState) : Prop where
  moved : ∀ (place : Nat) (state : ContainerState), before[place]? = some state →
    ∃ later, after[place]? = some later ∧ state.Follows later
  begun : ∀ (place : Nat) (state : ContainerState), before[place]? = none →
    after[place]? = some state → state = .created

namespace Advance

theorem refl (states : List ContainerState) : Advance states states where
  moved _ state seen := ⟨state, seen, Or.inl rfl⟩
  begun place state unseen seen := by
    rw [unseen] at seen
    cases seen

theorem created (states : List ContainerState) : Advance states (states ++ [.created]) where
  moved place state seen := by
    refine ⟨state, ?_, Or.inl rfl⟩
    obtain ⟨inside, -⟩ := List.getElem?_eq_some_iff.mp seen
    rw [List.getElem?_append_left inside]
    exact seen
  begun place state unseen seen := by
    rw [List.getElem?_append_right (List.getElem?_eq_none_iff.mp unseen)] at seen
    exact List.mem_singleton.mp (List.mem_of_getElem? seen)

theorem set {states : List ContainerState} {place : Nat} {target : ContainerState}
    (allowed : (states.getD place .defined).canBecome target = true) :
    Advance states (states.set place target) where
  moved other state seen := by
    by_cases same : place = other
    · subst same
      obtain ⟨inside, -⟩ := List.getElem?_eq_some_iff.mp seen
      refine ⟨target, List.getElem?_set_self inside, Or.inr ?_⟩
      rw [List.getD_eq_getElem?_getD, seen] at allowed
      exact allowed
    · refine ⟨state, ?_, Or.inl rfl⟩
      rw [List.getElem?_set_ne same]
      exact seen
  begun other state unseen seen := by
    have outside := List.getElem?_eq_none_iff.mp unseen
    have still : (states.set place target)[other]? = none := by
      rw [List.getElem?_eq_none_iff, List.length_set]
      exact outside
    rw [still] at seen
    cases seen

end Advance

theorem getD_set_self {states : List ContainerState} {place : Nat} (target : ContainerState)
    (known : states.getD place .defined ≠ .defined) :
    (states.set place target).getD place .defined = target := by
  have inside : place < states.length := by
    by_contra outside
    apply known
    rw [List.getD_eq_getElem?_getD, List.getElem?_eq_none (by omega), Option.getD_none]
  simp [List.getD_eq_getElem?_getD, inside]

/-- A container that can be removed still can when it, or another one, was moved on to a state from
which it can be removed. -/
theorem removable_set {states : List ContainerState} {place other : Nat} {target : ContainerState}
    (removable : (states.getD other .defined).canBecome .removed = true)
    (still : target.canBecome .removed = true) :
    ((states.set place target).getD other .defined).canBecome .removed = true := by
  have known : states.getD other .defined ≠ .defined := by
    intro none
    rw [none] at removable
    cases removable
  by_cases same : place = other
  · subst same
    rw [getD_set_self target known]
    exact still
  · rw [List.getD_eq_getElem?_getD, List.getElem?_set_ne same, ← List.getD_eq_getElem?_getD]
    exact removable

end ContainerState

open ContainerState (Advance Path)

/-! ### Calls that move a container -/

/-- How a call goes that is to move a container: it moves it, does without, or fails in the engine
and leaves the states alone. -/
inductive Bench.Moved {E : Type} (b : Bench E) (c : Container) (target : ContainerState) :
    Except ContainerError Unit → Bench E → Prop where
  | moved (after : Bench E) (states : after.states = b.states.set c.place target) :
    Moved b c target (.ok ()) after
  | spared (after : Bench E) (states : after.states = b.states) : Moved b c target (.ok ()) after
  | failed (operation : EngineOperation) (cause : EngineError) (after : Bench E)
      (states : after.states = b.states) :
    Moved b c target (.error (.engine operation cause)) after

namespace Bench.Moved

variable {E : Type} {b after : Bench E} {c : Container} {target : ContainerState}
  {outcome : Except ContainerError Unit}

theorem advance (moved : b.Moved c target outcome after)
    (allowed : (b.state c).canBecome target = true) : Advance b.states after.states := by
  cases moved with
  | moved _ states =>
    rw [states]
    exact .set allowed
  | spared _ states | failed _ _ _ states =>
    rw [states]
    exact .refl b.states

theorem regular (moved : b.Moved c target outcome after) (source goal : ContainerState) :
    outcome ≠ .error (.invalidTransition source goal) := by
  cases moved with
  | moved | spared | failed => exact fun refused => by cases refused

theorem removable (moved : b.Moved c target outcome after) {other : Container}
    (removable : (b.state other).canBecome .removed = true)
    (still : target.canBecome .removed = true) :
    (after.state other).canBecome .removed = true := by
  unfold Bench.state at removable ⊢
  cases moved with
  | moved _ states =>
    rw [states]
    exact ContainerState.removable_set removable still
  | spared _ states | failed _ _ _ states =>
    rw [states]
    exact removable

end Bench.Moved

namespace ContainerStage

variable {E : Type} {b : Bench E} {c : Container}

theorem transition_of_allowed {target : ContainerState}
    (allowed : (b.state c).canBecome target = true) :
    Bench.transition c target b = (.ok (), { b with states := b.states.set c.place target }) := by
  simp only [Bench.transition, ContainerState.validate, allowed, if_true]

/-- A call that releases something of a container, and the transition after it. -/
theorem release_moved {target : ContainerState} (operation : EngineOperation)
    (step : Action (Bench E) EngineError Unit) (same : (step b).2.states = b.states)
    (allowed : (b.state c).canBecome target = true) : ∃ outcome after,
    ((Bench.unlessGone step).mapError (.engine operation) >>= fun _ =>
      Bench.transition c target) b = (outcome, after) ∧ b.Moved c target outcome after := by
  have released := Bench.unlessGone_concluded operation step b
  rcases concluding : concluded operation (step b).1 with cause | _ <;> rw [concluding] at released
  · -- What is reported is the failure of the engine.
    refine ⟨.error cause, (step b).2, Action.bind_of_error released, ?_⟩
    rcases answer : (step b).1 with cause' | _ <;> rw [answer] at concluding
    · by_cases gone : cause'.isNotFound = true
      · simp [concluded, gone] at concluding
      · obtain rfl : ContainerError.engine operation cause' = cause := by
          simpa [concluded, gone] using concluding
        exact .failed operation cause' _ same
    · cases concluding
  · have allowed' : ((step b).2.state c).canBecome target = true := by
      rw [Bench.state, same]
      exact allowed
    have moving := transition_of_allowed allowed'
    rw [same] at moving
    exact ⟨.ok (), _, (Action.bind_of_ok released).trans moving, .moved _ rfl⟩

variable [Engine E]

theorem removeContainer_moved (removable : (b.state c).canBecome .removed = true) :
    ∃ outcome after, removeContainer c b = (outcome, after) ∧ b.Moved c .removed outcome after := by
  cases left : c.removesItself && b.wasStarted c with
  | true =>
    have looked : (Action.read fun b => c.removesItself && b.wasStarted c :
        Action (Bench E) ContainerError Bool) b = (.ok true, b) := by
      rw [← left]
      rfl
    have moving := transition_of_allowed removable
    exact ⟨.ok (), _, (Action.bind_of_ok looked).trans moving, .moved _ rfl⟩
  | false =>
    have looked : (Action.read fun b => c.removesItself && b.wasStarted c :
        Action (Bench E) ContainerError Bool) b = (.ok false, b) := by
      rw [← left]
      rfl
    obtain ⟨outcome, after, released, moved⟩ :=
      release_moved .remove (Bench.call (.remove c.id true)) rfl removable
    exact ⟨outcome, after, (Action.bind_of_ok looked).trans released, moved⟩

theorem stopContainer_moved (running : b.state c = .started) :
    ∃ outcome after, stopContainer c b = (outcome, after) ∧ b.Moved c .stopped outcome after := by
  unfold stopContainer
  by_cases required : c.stopRequired = true
  · rw [if_pos required]
    apply release_moved .stop (Bench.call (.stop c.id (.ofSeconds c.stopTimeout.toNat))) rfl
    rw [running]
    rfl
  · rw [if_neg required]
    exact ⟨.ok (), b, rfl, .spared b rfl⟩

omit c in
/-- Asking the engine moves no container, and reports only what the engine does. -/
theorem ask_cases (request : EngineCall) (b : Bench E) :
    (∃ cause after, Bench.ask request b = (.error (.engine request.operation cause), after) ∧
        after.states = b.states) ∨
      ∃ answer after, Bench.ask request b = (.ok answer, after) ∧ after.states = b.states := by
  have same : (Bench.call request b).2.states = b.states := rfl
  rcases called : (Bench.call request : Action (Bench E) EngineError _) b with
    ⟨cause | answer, asked⟩ <;> rw [called] at same
  · refine Or.inl ⟨cause, asked, ?_, same⟩
    rw [Bench.ask, Action.mapError, called]
    rfl
  · refine Or.inr ⟨answer, asked, ?_, same⟩
    rw [Bench.ask, Action.mapError, called]
    rfl

/-- A container that is still to be started is started, or the engine refuses. -/
theorem start_moved (ready : b.state c = .created) :
    (∃ cause after, (start : ContainerStage E).commission (some c) b =
        (.error (.engine .start cause), after) ∧ after.states = b.states) ∨
      ∃ after, (start : ContainerStage E).commission (some c) b = (.ok c, after) ∧
        after.states = b.states.set c.place .started := by
  rcases ask_cases (.start c.id) b with ⟨cause, asked, asking, same⟩ | ⟨answer, asked, asking, same⟩
  · exact Or.inl ⟨cause, asked, Action.bind_of_error (Action.bind_of_error asking), same⟩
  · have allowed : (asked.state c).canBecome .started = true := by
      rw [Bench.state, same, ← Bench.state, ready]
      rfl
    have moving := transition_of_allowed allowed
    rw [same] at moving
    exact Or.inr ⟨_, Action.bind_of_ok ((Action.bind_of_ok asking).trans moving), rfl⟩

theorem createContainer_moved (params : Params) (b : Bench E) :
    (∃ cause after, createContainer params b = (.error cause, after) ∧ after.states = b.states ∧
        ∀ source target, cause ≠ .invalidTransition source target) ∨
      ∃ creation after, createContainer params b =
          (.ok (.ofCreation b.states.length params creation), after) ∧
        after.states = b.states ++ [.created] := by
  cases checked : params.validate with
  | error cause =>
    have refused : Action.ofExcept (params.validate.mapError ContainerError.params) b =
        (.error (.params cause), b) := by
      rw [checked]
      rfl
    exact Or.inl ⟨.params cause, b, Action.bind_of_error refused, rfl,
      fun _ _ same => by cases same⟩
  | ok _ =>
    have accepted : Action.ofExcept (params.validate.mapError ContainerError.params) b =
        (.ok (), b) := by
      rw [checked]
      rfl
    rcases ask_cases (.create params) b with
      ⟨cause, asked, asking, same⟩ | ⟨creation, asked, asking, same⟩
    · exact Or.inl ⟨.engine .create cause, asked,
        (Action.bind_of_ok accepted).trans (Action.bind_of_error asking), same,
        fun _ _ same => by cases same⟩
    · refine Or.inr ⟨creation, { asked with states := b.states ++ [.created] }, ?_, rfl⟩
      refine (Action.bind_of_ok accepted).trans ((Action.bind_of_ok asking).trans ?_)
      rw [same]

end ContainerStage

/-! ### The course of the states -/

/-- A history of the stages of a container, with the states of all containers after each call. -/
abbrev ContainerHistory := List (StageRun ContainerError (List ContainerState))

namespace ContainerPlan

variable {E : Type} {plan : ContainerPlan E}

/-- The place of a stage that creates or starts the container. -/
def Owns (plan : ContainerPlan E) (index : Nat) : Prop :=
  index = 0 ∨ index = plan.preStart.length + 1

/-- Only the stages that create and start the container move it: no other one changes a state, and
what those before the start hand on is a container that is still to be started. -/
structure Tactful (plan : ContainerPlan E) : Prop where
  preStart : ∀ stage ∈ plan.preStart, stage.Leaves Bench.states
  postStart : ∀ stage ∈ plan.postStart, stage.Leaves Bench.states
  handsOn : ∀ stage ∈ plan.preStart, ∀ given before product after,
    before.state given = .created → stage.commission (some given) before = (.ok product, after) →
      after.state product = .created

/-- Ready-made stages only ask the engine, and hand on the container that they are given. -/
theorem Stock.tactful [Engine E] (stock : plan.Stock) : plan.Tactful := by
  have rests : ∀ stage, ContainerStage.IsStock stage → stage.Leaves (Bench.states (E := E)) := by
    intro stage ready states
    exact ready.keeps fun request _ b before => before
  constructor
  · exact fun stage mem => rests stage (stock.preStart stage mem)
  · exact fun stage mem => rests stage (stock.postStart stage mem)
  · intro stage mem given before product after ready commissioned
    have same := (stock.preStart stage mem).handsOn given before product after commissioned
    have still := (rests stage (stock.preStart stage mem) before.states).commission (some given)
      before rfl
    rw [commissioned] at still
    rw [same, Bench.state, still]
    exact ready

/-- The histories in which the states only ever advance, and the stages that move the container are
never refused a transition; with the states at the beginning and at the end. -/
inductive Course (plan : ContainerPlan E) (opening : List ContainerState) :
    ContainerHistory → List ContainerState → Prop where
  | start : Course plan opening [] opening
  | called {history : ContainerHistory} {states after : List ContainerState} (index : Nat)
      (failure : Option ContainerError) (before : Course plan opening history states)
      (advance : Advance states after)
      (granted : plan.Owns index → ∀ source target,
        failure ≠ some (.invalidTransition source target)) :
    Course plan opening (history ++ [⟨index, failure, after⟩]) after

namespace Course

variable {opening states : List ContainerState} {history : ContainerHistory}

theorem granted (course : plan.Course opening history states) {run : StageRun _ _}
    (mem : run ∈ history) (own : plan.Owns run.index) (source target : ContainerState) :
    run.failure ≠ some (.invalidTransition source target) := by
  induction course with
  | start => cases mem
  | called index failure _ _ granted ih =>
    rcases List.mem_append.mp mem with earlier | last
    · exact ih earlier
    · rw [List.mem_singleton] at last
      subst last
      exact granted own source target

/-- What a handle created in the meantime has shown, up to its present state. -/
theorem path_latest (course : plan.Course opening history states) {place : Nat}
    (new : opening[place]? = none) :
    (history.filterMap (·.shown[place]?)).getLast? = states[place]? ∧
      Path (history.filterMap (·.shown[place]?)) := by
  induction course with
  | start =>
    rw [new]
    exact ⟨rfl, .of_moves (fun _ mem => by cases mem) .nil⟩
  | @called history states after index failure _ advance _ ih =>
    obtain ⟨latest, path⟩ := ih
    rw [List.filterMap_append, List.filterMap_cons, List.filterMap_nil]
    cases seen : after[place]? with
    | none =>
      -- Having no state after the call, the container had none before.
      have unseen : states[place]? = none := by
        cases earlier : states[place]? with
        | none => rfl
        | some state =>
          obtain ⟨later, still, -⟩ := advance.moved place state earlier
          rw [seen] at still
          cases still
      rw [List.append_nil, latest, unseen]
      exact ⟨rfl, path⟩
    | some next =>
      refine ⟨by simp, .of_moves (fun first mem => ?_) ?_⟩
      · rcases nothing : history.filterMap (·.shown[place]?) with _ | ⟨oldest, others⟩
        · rw [nothing] at latest mem
          obtain rfl : next = first := by simpa using mem
          exact advance.begun place next latest.symm seen
        · rw [nothing] at mem path
          exact path.begins first (by simpa using mem)
      · refine path.moves.append (List.isChain_singleton next) fun last mem first mem' => ?_
        obtain rfl : next = first := by simpa using mem'
        rw [latest] at mem
        obtain ⟨later, still, follows⟩ := advance.moved place last mem
        rw [seen] at still
        cases still
        exact follows

/-- A call of an observed stage goes on with the course. -/
theorem observed {α : Type} {b after : Bench E} {outcome : Except ContainerError α}
    {step : Action (Bench E) ContainerError α} (index : Nat)
    (course : plan.Course opening history b.states) (performed : step b = (outcome, after))
    (advance : Advance b.states after.states)
    (granted : plan.Owns index → ∀ source target,
      outcome ≠ .error (.invalidTransition source target)) :
    plan.Course opening (step.observed Bench.states index (b, history)).2.2
      (step.observed Bench.states index (b, history)).2.1.states := by
  cases outcome with
  | error cause =>
    rw [Action.observed_of_error performed]
    refine .called index (some cause) course advance fun own source target same => ?_
    exact granted own source target (congrArg Except.error (Option.some.inj same))
  | ok answer =>
    rw [Action.observed_of_ok performed]
    exact .called index none course advance fun _ _ _ same => by cases same

end Course

/-! ### Stages that let the states rest -/

/-- The states are those at the end of a course, which has come as far as the history. -/
def Rests (plan : ContainerPlan E) (opening states : List ContainerState)
    (w : Bench E × ContainerHistory) : Prop :=
  plan.Course opening w.2 states ∧ w.1.states = states

/-- An observed stage none of whose calls moves a container. -/
def Quiet (plan : ContainerPlan E) (opening : List ContainerState)
    (stage : Stage (Bench E × ContainerHistory) ContainerError Container) : Prop :=
  ∀ states, stage.Keeps (plan.Rests opening states)

variable {opening states : List ContainerState} {w : Bench E × ContainerHistory}
  {stack : List (CommittedStage (Bench E × ContainerHistory) ContainerError Container)}

theorem Course.rests (course : plan.Course opening w.2 w.1.states) :
    plan.Rests opening w.1.states w :=
  ⟨course, rfl⟩

theorem Rests.course (rests : plan.Rests opening states w) :
    plan.Course opening w.2 w.1.states := by
  obtain ⟨course, same⟩ := rests
  rw [same]
  exact course

theorem Rests.observed {α : Type} (rests : plan.Rests opening states w) {index : Nat}
    {step : Action (Bench E) ContainerError α} (same : (step w.1).2.states = w.1.states)
    (granted : plan.Owns index → ∀ source target,
      (step w.1).1 ≠ .error (.invalidTransition source target)) :
    plan.Rests opening states (step.observed Bench.states index w).2 := by
  have advance : Advance w.1.states (step w.1).2.states := by
    rw [same]
    exact .refl w.1.states
  have performed : step w.1 = ((step w.1).1, (step w.1).2) := rfl
  have course := rests.course.observed index performed advance granted
  have still : (step.observed Bench.states index w).2.1.states = states := same.trans rests.2
  exact ⟨still ▸ course, still⟩

theorem quiet_of_leaves {stage : ContainerStage E} {index : Nat}
    (leaves : stage.Leaves Bench.states) (other : ¬plan.Owns index) :
    plan.Quiet opening (stage.observed Bench.states index) := by
  intro states
  constructor
  · intro input w rests
    exact rests.observed ((leaves w.1.states).commission input w.1 rfl) fun own => absurd own other
  · intro product w rests
    exact rests.observed ((leaves w.1.states).decommission product w.1 rfl)
      fun own => absurd own other

theorem sweep_rests (quiet : ∀ committed ∈ stack, plan.Quiet opening committed.stage)
    (rests : plan.Rests opening states w) : plan.Rests opening states (sweep stack w).2 :=
  CommittedStage.sweep_keeps (fun committed mem => quiet committed mem states) rests

/-! ### Stacks -/

variable [Engine E]

/-- The stack of a container that was created, with other stages after that. -/
inductive Readied (plan : ContainerPlan E) (opening : List ContainerState) (c : Container) :
    List (CommittedStage (Bench E × ContainerHistory) ContainerError Container) → Prop where
  | mk (others : List (CommittedStage (Bench E × ContainerHistory) ContainerError Container))
      (quiet : ∀ committed ∈ others, plan.Quiet opening committed.stage) :
    Readied plan opening c
      (others ++ [⟨0, (ContainerStage.create plan.params).observed Bench.states 0, c⟩])

/-- The stack of a container that was started, with other stages after that. -/
inductive Serves (plan : ContainerPlan E) (opening : List ContainerState) (c d : Container) :
    List (CommittedStage (Bench E × ContainerHistory) ContainerError Container) → Prop where
  | mk (behind below :
        List (CommittedStage (Bench E × ContainerHistory) ContainerError Container))
      (quiet : ∀ committed ∈ behind, plan.Quiet opening committed.stage)
      (readied : plan.Readied opening c below) :
    Serves plan opening c d (behind ++ ⟨plan.preStart.length + 1,
      ContainerStage.start.observed Bench.states (plan.preStart.length + 1), d⟩ :: below)

variable {c d : Container}

theorem Readied.sweep (readied : plan.Readied opening c stack)
    (course : plan.Course opening w.2 w.1.states)
    (removable : (w.1.state c).canBecome .removed = true) :
    plan.Course opening (sweep stack w).2.2 (sweep stack w).2.1.states := by
  obtain ⟨others, quiet⟩ := readied
  have rests := sweep_rests quiet course.rests
  rw [CommittedStage.sweep_append, CommittedStage.sweep_cons]
  -- The states are still what they were, so the container can be removed.
  generalize (CommittedStage.sweep others w).2 = reached at rests ⊢
  have removable' : (reached.1.state c).canBecome .removed = true := by
    rw [Bench.state, rests.2]
    exact removable
  obtain ⟨outcome, after, removed, moved⟩ := ContainerStage.removeContainer_moved removable'
  exact rests.course.observed 0 removed (moved.advance removable') fun _ => moved.regular

theorem Serves.sweep (serves : plan.Serves opening c d stack)
    (course : plan.Course opening w.2 w.1.states) (running : w.1.state d = .started)
    (removable : (w.1.state c).canBecome .removed = true) :
    plan.Course opening (sweep stack w).2.2 (sweep stack w).2.1.states := by
  obtain ⟨behind, below, quiet, readied⟩ := serves
  have rests := sweep_rests quiet course.rests
  rw [CommittedStage.sweep_append, CommittedStage.sweep_cons]
  generalize (CommittedStage.sweep behind w).2 = reached at rests ⊢
  have running' : reached.1.state d = .started := by
    rw [Bench.state, rests.2]
    exact running
  have removable' : (reached.1.state c).canBecome .removed = true := by
    rw [Bench.state, rests.2]
    exact removable
  obtain ⟨outcome, after, stopped, moved⟩ := ContainerStage.stopContainer_moved running'
  have advance : Advance reached.1.states after.states := moved.advance (by rw [running']; rfl)
  apply readied.sweep
  · exact rests.course.observed (plan.preStart.length + 1) stopped advance fun _ => moved.regular
  · -- Whichever container was stopped, the one below can still be removed.
    show ((ContainerStage.stopContainer d reached.1).2.state c).canBecome .removed = true
    rw [stopped]
    exact moved.removable removable' rfl

theorem Serves.taken (serves : plan.Serves opening c d stack) : stack ≠ [] := by
  cases serves
  simp

/-! ### Commissioning, phase by phase -/

/-- Where an observed lifecycle stands between calls: nothing is committed, or the containers on its
stack are in the states in which the stages left them. -/
inductive Standing (plan : ContainerPlan E) (opening : List ContainerState) :
    Lifecycle (Bench E × ContainerHistory) ContainerError Container →
      Bench E × ContainerHistory → Prop where
  | idle {l : Lifecycle (Bench E × ContainerHistory) ContainerError Container}
      {w : Bench E × ContainerHistory}
      (chain : l.stages = Lifecycle.observedFrom Bench.states 0 plan.stages)
      (free : l.committed = []) (course : plan.Course opening w.2 w.1.states) :
    Standing plan opening l w
  | serving {l : Lifecycle (Bench E × ContainerHistory) ContainerError Container}
      {w : Bench E × ContainerHistory} {c d : Container}
      (chain : l.stages = Lifecycle.observedFrom Bench.states 0 plan.stages)
      (serves : plan.Serves opening c d l.committed) (course : plan.Course opening w.2 w.1.states)
      (running : w.1.state d = .started) (removable : (w.1.state c).canBecome .removed = true) :
    Standing plan opening l w

variable {l : Lifecycle (Bench E × ContainerHistory) ContainerError Container}

omit [Engine E] in
theorem quiet_of_mem_observedFrom {index : Nat} {stages : List (ContainerStage E)}
    (leaves : ∀ stage ∈ stages, stage.Leaves Bench.states)
    (others : ∀ place, index ≤ place → place < index + stages.length → ¬plan.Owns place) :
    ∀ stage ∈ Lifecycle.observedFrom Bench.states index stages, plan.Quiet opening stage := by
  intro stage mem
  obtain ⟨inner, inside, place, above, below, rfl⟩ := Lifecycle.mem_observedFrom mem
  exact quiet_of_leaves (leaves inner inside) (others place above below)

/-- A commissioning with a pass that went so ends standing. -/
def Concludes (plan : ContainerPlan E) (opening : List ContainerState)
    (l : Lifecycle (Bench E × ContainerHistory) ContainerError Container)
    (pass : Lifecycle.Progress ContainerError Container ×
      List (CommittedStage (Bench E × ContainerHistory) ContainerError Container) ×
      Bench E × ContainerHistory) : Prop :=
  plan.Standing opening (l.conclude pass).2.1 (l.conclude pass).2.2

theorem concludes_postStart (tactful : plan.Tactful)
    (chain : l.stages = Lifecycle.observedFrom Bench.states 0 plan.stages)
    (readied : plan.Readied opening c stack) (course : plan.Course opening w.2 w.1.states)
    (running : w.1.state d = .started) (removable : (w.1.state c).canBecome .removed = true)
    (input : Option Container) :
    plan.Concludes opening l (Lifecycle.climb (plan.preStart.length + 2) input
      (⟨plan.preStart.length + 1,
        ContainerStage.start.observed Bench.states (plan.preStart.length + 1), d⟩ :: stack)
      (Lifecycle.observedFrom Bench.states (plan.preStart.length + 2) plan.postStart) w) := by
  let base := ⟨plan.preStart.length + 1,
    ContainerStage.start.observed Bench.states (plan.preStart.length + 1), d⟩ :: stack
  let rest := Lifecycle.observedFrom Bench.states (plan.preStart.length + 2) plan.postStart
  have quiet : ∀ stage ∈ rest, plan.Quiet opening stage := by
    refine quiet_of_mem_observedFrom tactful.postStart fun place above _ own => ?_
    rcases own with first | started <;> omega
  have rests := Lifecycle.climb_keeps (fun stage mem => quiet stage mem w.1.states)
    (plan.preStart.length + 2) input base course.rests
  obtain ⟨behind, grown, placed⟩ :=
    Lifecycle.climb_stack (plan.preStart.length + 2) input base rest w
  have serves : plan.Serves opening c d (behind ++ base) :=
    .mk behind stack (fun committed mem => quiet _ (placed committed mem).1) readied
  -- Wherever the pass stops, the states are still those that the start left.
  rcases pass : Lifecycle.climb (plan.preStart.length + 2) input base rest w with
    ⟨progress, reached, after⟩
  rw [pass] at rests grown
  dsimp only at rests grown
  subst grown
  have running' : after.1.state d = .started := by
    rw [Bench.state, rests.2]
    exact running
  have removable' : (after.1.state c).canBecome .removed = true := by
    rw [Bench.state, rests.2]
    exact removable
  cases progress with
  | error failure => exact .idle chain rfl (serves.sweep rests.course running' removable')
  | ok product => exact .serving chain serves rests.course running' removable'

theorem concludes_start (tactful : plan.Tactful)
    (chain : l.stages = Lifecycle.observedFrom Bench.states 0 plan.stages)
    (readied : plan.Readied opening c stack) (course : plan.Course opening w.2 w.1.states)
    (ready : w.1.state d = .created) (removable : (w.1.state c).canBecome .removed = true) :
    plan.Concludes opening l (Lifecycle.climb (plan.preStart.length + 1) (some d) stack
      (Lifecycle.observedFrom Bench.states (plan.preStart.length + 1)
        (ContainerStage.start :: plan.postStart)) w) := by
  obtain ⟨b, history⟩ := w
  dsimp only at course ready removable
  rw [Lifecycle.observedFrom, Lifecycle.climb]
  rcases ContainerStage.start_moved ready with
    ⟨cause, after, started, same⟩ | ⟨after, started, moved⟩
  · have called : (ContainerStage.start.observed Bench.states
        (plan.preStart.length + 1)).commission (some d) (b, history) = _ :=
      Action.observed_of_error started history
    rw [called]
    have advance : Advance b.states after.states := by
      rw [same]
      exact .refl b.states
    have course' := Course.called (plan.preStart.length + 1) (some (.engine .start cause)) course
      advance fun _ _ _ same => by cases same
    -- What failed to start is not on the stack; what is below it is undone.
    refine .idle chain rfl (readied.sweep course' ?_)
    rw [Bench.state, same]
    exact removable
  · have called : (ContainerStage.start.observed Bench.states
        (plan.preStart.length + 1)).commission (some d) (b, history) = _ :=
      Action.observed_of_ok started history
    rw [called]
    have known : b.states.getD d.place .defined ≠ .defined := by
      rw [← Bench.state, ready]
      exact fun same => by cases same
    have advance : Advance b.states after.states := by
      rw [moved]
      apply Advance.set
      rw [← Bench.state, ready]
      rfl
    have course' := Course.called (plan.preStart.length + 1) none course advance
      fun _ _ _ same => by cases same
    refine concludes_postStart tactful chain readied course' ?_ ?_ (some d)
    · rw [Bench.state, moved]
      exact ContainerState.getD_set_self .started known
    · rw [Bench.state, moved]
      exact ContainerState.removable_set removable rfl

theorem concludes_preStart (tactful : plan.Tactful)
    (chain : l.stages = Lifecycle.observedFrom Bench.states 0 plan.stages)
    (course : plan.Course opening w.2 w.1.states) (ready : w.1.state c = .created) :
    plan.Concludes opening l (Lifecycle.climb 1 (some c)
      [⟨0, (ContainerStage.create plan.params).observed Bench.states 0, c⟩]
      (Lifecycle.observedFrom Bench.states 1
        (plan.preStart ++ ContainerStage.start :: plan.postStart)) w) := by
  let base : List (CommittedStage (Bench E × ContainerHistory) ContainerError Container) :=
    [⟨0, (ContainerStage.create plan.params).observed Bench.states 0, c⟩]
  let front := Lifecycle.observedFrom Bench.states 1 plan.preStart
  have others : ∀ place, 1 ≤ place → place < 1 + plan.preStart.length → ¬plan.Owns place := by
    intro place above below own
    rcases own with first | started <;> omega
  have quiet : ∀ stage ∈ front, plan.Quiet opening stage :=
    quiet_of_mem_observedFrom tactful.preStart others
  have fits : ∀ stage ∈ front, ∀ given, w.1.states.getD given.place .defined = .created →
      ∀ reached, plan.Rests opening w.1.states reached →
        plan.Rests opening w.1.states (stage.commission (some given) reached).2 ∧
          ∀ product, (stage.commission (some given) reached).1 = .ok product →
            w.1.states.getD product.place .defined = .created := by
    intro stage mem given fit reached rests
    have rests' := (quiet stage mem w.1.states).commission (some given) reached rests
    refine ⟨rests', fun product done => ?_⟩
    obtain ⟨inner, inside, place, above, below, rfl⟩ := Lifecycle.mem_observedFrom mem
    rw [← rests.2] at fit
    rw [← rests'.2]
    exact tactful.handsOn inner inside given reached.1 product _ fit (Prod.ext done rfl)
  obtain ⟨rests, made⟩ := Lifecycle.climb_fit fits 1 ready base course.rests
  obtain ⟨added, grown, placed⟩ := Lifecycle.climb_stack 1 (some c) base front w
  have readied : plan.Readied opening c (added ++ base) :=
    .mk added fun committed mem => quiet _ (placed committed mem).1
  rw [Lifecycle.observedFrom_append, Lifecycle.climb_append]
  rcases pass : Lifecycle.climb 1 (some c) base front w with ⟨progress, reached, after⟩
  rw [pass] at rests made grown
  dsimp only at rests made grown
  subst grown
  have removable : (after.1.state c).canBecome .removed = true := by
    rw [Bench.state, rests.2, ← Bench.state, ready]
    rfl
  cases progress with
  | error failure => exact .idle chain rfl (readied.sweep rests.course removable)
  | ok product =>
    -- What is started is a container that was created, whichever it is.
    obtain ⟨last, rfl, fit⟩ := made product rfl
    dsimp only
    rw [Lifecycle.length_observedFrom, Nat.add_comm 1]
    refine concludes_start tactful chain readied rests.course ?_ removable
    rw [Bench.state, rests.2]
    exact fit

theorem Standing.commission (tactful : plan.Tactful) (standing : plan.Standing opening l w) :
    plan.Standing opening (l.commission w).2.1 (l.commission w).2.2 := by
  cases standing with
  | serving chain serves course running removable =>
    rw [Lifecycle.commission_taken serves.taken]
    exact .serving chain serves course running removable
  | idle chain free course =>
    rw [Lifecycle.commission_free free]
    show plan.Concludes opening l _
    obtain ⟨b, history⟩ := w
    rw [chain, stages, List.cons_append, Lifecycle.observedFrom, Lifecycle.climb]
    rcases ContainerStage.createContainer_moved plan.params b with
      ⟨cause, after, refused, same, regular⟩ | ⟨creation, after, created, grown⟩
    · have called : ((ContainerStage.create plan.params).observed Bench.states 0).commission none
          (b, history) = _ := Action.observed_of_error refused history
      rw [called]
      -- Nothing is committed, and nothing is undone.
      refine .idle chain rfl (.called 0 (some cause) course ?_ fun _ source target same => ?_)
      · rw [same]
        exact .refl b.states
      · exact regular source target (Option.some.inj same)
    · have called : ((ContainerStage.create plan.params).observed Bench.states 0).commission none
          (b, history) = _ := Action.observed_of_ok created history
      rw [called]
      have advance : Advance b.states after.states := by
        rw [grown]
        exact .created b.states
      have course' := Course.called 0 none course advance fun _ _ _ same => by cases same
      refine concludes_preStart tactful chain course' ?_
      rw [Bench.state, grown]
      simp [Container.ofCreation]

theorem Standing.decommission (standing : plan.Standing opening l w) :
    plan.Standing opening (l.decommission w).2.1 (l.decommission w).2.2 := by
  cases standing with
  | idle chain free course =>
    have nothing : (l.decommission w).2.2 = w := by simp [Lifecycle.decommission, free, sweep]
    rw [nothing]
    exact .idle chain rfl course
  | serving chain serves course running removable =>
    exact .idle chain rfl (serves.sweep course running removable)

/-- Every run of calls leaves the lifecycle standing, by `Standing.commission` and
`Standing.decommission` for its last call. -/
theorem run_standing (tactful : plan.Tactful) (b : Bench E) (calls : List LifecycleCall) :
    let l : Lifecycle (Bench E × ContainerHistory) ContainerError Container :=
      { stages := Lifecycle.observedFrom Bench.states 0 plan.stages }
    plan.Standing b.states (l.run (b, []) calls).1 (l.run (b, []) calls).2 := by
  intro l
  induction calls using List.reverseRecOn with
  | nil => exact .idle rfl rfl .start
  | append_singleton calls call ih =>
    rw [Lifecycle.run_concat]
    cases call with
    | commission => exact ih.commission tactful
    | decommission => exact ih.decommission

theorem Standing.course (standing : plan.Standing opening l w) :
    plan.Course opening w.2 w.1.states := by
  cases standing with
  | idle _ _ course => exact course
  | serving _ _ course _ _ => exact course

/-! ### Main result -/

/-- Over any engine, from any bench and through any calls, no stage that creates or starts the
container fails for an invalid transition, and whatever container is created shows a path of
states. -/
theorem transitions_legal (tactful : plan.Tactful) (b : Bench E) (calls : List LifecycleCall) :
    let history := Lifecycle.history Bench.states plan.stages b calls
    (∀ run ∈ history, plan.Owns run.index → ∀ source target,
      run.failure ≠ some (.invalidTransition source target)) ∧
    ∀ place, b.states.length ≤ place → Path (history.filterMap (·.shown[place]?)) := by
  intro history
  have course := (run_standing tactful b calls).course
  constructor
  · intro run mem own
    exact course.granted mem own
  · intro place new
    exact (course.path_latest (List.getElem?_eq_none new)).2

/-- An engine that removes nothing, so that the first container is still there when the second one
is created. -/
theorem transitions_legal_of_refused_removal :
    let plan : ContainerPlan MemoryEngine :=
      { params := { Params.ofImage ⟨none, none, "redis", some (.tag "7")⟩ with
          disableAutoRemove := true }
        postStart := [ContainerStage.exec ["redis-cli", "ping"] .empty] }
    let b : Bench MemoryEngine := { engine := MemoryEngine.fail .remove (.refused "busy") {} }
    let history := Lifecycle.history Bench.states plan.stages b
      [.commission, .decommission, .commission, .commission]
    plan.Tactful ∧
    history.map StageRun.shown =
      [[.created], [.started], [.started], [.started], [.stopped], [.stopped],
        [.stopped, .created], [.stopped, .started], [.stopped, .started]] ∧
    (∀ run ∈ history, plan.Owns run.index → ∀ source target,
      run.failure ≠ some (.invalidTransition source target)) ∧
    ∀ place, 0 ≤ place → Path (history.filterMap (·.shown[place]?)) := by
  intro plan b history
  have tactful : plan.Tactful := by
    refine Stock.tactful ⟨fun stage mem => absurd mem List.not_mem_nil, fun stage mem => ?_⟩
    rw [List.mem_singleton.mp mem]
    exact .exec _ _
  refine ⟨tactful, by decide +kernel, ?_⟩
  exact transitions_legal tactful b [.commission, .decommission, .commission, .commission]

/-- A stage hands on the container of the commissioning before. That one ends by itself and is called
removed, though the engine still has it and starts it once more: then it is too late to refuse. -/
theorem start_refused_of_kept_container :
    let params := { Params.ofImage ⟨none, none, "redis", some (.tag "7")⟩ with
      commandType := .exitingImmediately }
    let kept := Container.ofCreation 0 params ⟨MemoryEngine.idFor 1 params.image, []⟩
    let plan : ContainerPlan MemoryEngine := { params, preStart := [.handing kept] }
    let history := Lifecycle.history Bench.states plan.stages { engine := {} }
      [.commission, .decommission, .commission]
    (∀ stage ∈ plan.preStart ++ plan.postStart, stage.Leaves Bench.states) ∧
      history.map (fun run => (run.index, run.shown)) =
        [(0, [.created]), (1, [.created]), (2, [.started]), (2, [.started]), (1, [.started]),
          (0, [.removed]), (0, [.removed, .created]), (1, [.removed, .created]),
          (2, [.removed, .created]), (1, [.removed, .created]), (0, [.removed, .removed])] ∧
      ¬ ∀ run ∈ history, plan.Owns run.index → ∀ source target,
        run.failure ≠ some (.invalidTransition source target) := by
  intro params kept plan history
  refine ⟨?_, by decide +kernel, fun granted => ?_⟩
  · intro stage mem
    rw [List.mem_singleton.mp mem]
    exact ContainerStage.handing_leaves _ _
  · have refused : ∃ run ∈ history, run.index = 2 ∧
        run.failure = some (.invalidTransition .removed .started) := by decide +kernel
    obtain ⟨run, mem, place, failed⟩ := refused
    exact granted run mem (Or.inr place) _ _ failed

end ContainerPlan

end ContainerFixture
