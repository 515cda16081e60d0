import ContainerFixture.Proofs.Container.Record

/-!
# How a container is taken down

What the stages of a container do to the vital calls and to the states of the containers, from the
one that creates it to the one that removes it, and what a sweep of their stack does.

The engine may answer as it likes: every lemma is about some answer. Each stage that releases
something makes the calls named here and reports of them what `lapses` says, which is nothing for a
container that the engine does not know any more.
-/

namespace ContainerFixture

open CommittedStage (report sweep)

/-! ### What is reported of a call -/

/-- Whether a call that stops or removes a container leaves nothing more to do: it succeeded, or the
engine does not know the container any more. -/
def settles : Except EngineError Unit → Bool
  | .ok () => true
  | .error cause => cause.isNotFound

/-- What a stage reports of a call that stops or removes a container. -/
def Exchange.lapse? : Exchange → Option ContainerError
  | ⟨_, .ok _⟩ => none
  | ⟨request, .error cause⟩ =>
    if cause.isNotFound then none else some (.engine request.operation cause)

/-- What the stage with a key reports of its calls. -/
def lapses (key : StageKey) (calls : List Exchange) : List (StageFailure ContainerError) :=
  (calls.filterMap Exchange.lapse?).map fun cause => ⟨key, cause⟩

/-- How a stage goes on after a call that stops or removes a container. -/
def concluded (operation : EngineOperation) : Except EngineError Unit → Except ContainerError Unit
  | .ok () => .ok ()
  | .error cause => if cause.isNotFound then .ok () else .error (.engine operation cause)

theorem concluded_eq_ok_iff {operation : EngineOperation} {answer : Except EngineError Unit} :
    concluded operation answer = .ok () ↔ settles answer = true := by
  rcases answer with cause | _
  · by_cases gone : cause.isNotFound = true <;> simp [concluded, settles, gone]
  · simp [concluded, settles]

theorem report_concluded_stop (key : StageKey) (id : ContainerId) (timeout : Duration)
    (answer : Except EngineError Unit) :
    report key (concluded .stop answer) = lapses key [⟨.stop id timeout, answer⟩] := by
  rcases answer with cause | _
  · by_cases gone : cause.isNotFound = true <;>
      simp [concluded, report, lapses, Exchange.lapse?, gone, EngineCall.operation]
  · rfl

theorem report_concluded_remove (key : StageKey) (id : ContainerId)
    (answer : Except EngineError Unit) :
    report key (concluded .remove answer) = lapses key [⟨.remove id true, answer⟩] := by
  rcases answer with cause | _
  · by_cases gone : cause.isNotFound = true <;>
      simp [concluded, report, lapses, Exchange.lapse?, gone, EngineCall.operation]
  · rfl

namespace Params

variable (params : Params) (id : ContainerId)

/-- The call that stops a started container, if there is to be one, and its answer. -/
def stopping (answer : Except EngineError Unit) : List Exchange :=
  if params.commandType = .blocking then
    [⟨.stop id (.ofSeconds params.stopTimeout.toNat), answer⟩] else []

/-- The call that removes a container once started, if there is to be one, and its answer. -/
def removing (answer : Except EngineError Unit) : List Exchange :=
  if params.disableAutoRemove then [⟨.remove id true, answer⟩] else []

/-- The state of a started container after its stop was answered. -/
def stoppedState (answer : Except EngineError Unit) : ContainerState :=
  if params.commandType = .blocking ∧ settles answer = true then .stopped else .started

/-- The state of a container once started after the stage that removes it. -/
def finalState (reached : ContainerState) (answer : Except EngineError Unit) : ContainerState :=
  if params.disableAutoRemove = true ∧ settles answer = false then reached else .removed

theorem stoppedState_cases (answer : Except EngineError Unit) :
    params.stoppedState answer = .started ∨ params.stoppedState answer = .stopped := by
  unfold stoppedState
  split
  · exact Or.inr rfl
  · exact Or.inl rfl

end Params

namespace Bench

variable {E : Type} {b : Bench E} {c : Container} {older : List ContainerState}
  {state : ContainerState}

theorem unlessGone_concluded (operation : EngineOperation)
    (step : Action (Bench E) EngineError Unit) (b : Bench E) :
    (unlessGone step).mapError (.engine operation) b =
      (concluded operation (step b).1, (step b).2) := by
  simp only [unlessGone, Action.mapError, Action.recover]
  rcases step b with ⟨cause | _, after⟩
  · by_cases gone : cause.isNotFound = true <;> simp [gone, concluded, Except.mapError]
  · rfl

/-! ### The newest container of a bench -/

theorem state_newest (place : c.place = older.length) (now : b.states = older ++ [state]) :
    b.state c = state := by
  simp [Bench.state, place, now]

theorem wasStarted_newest (place : c.place = older.length) (now : b.states = older ++ [state]) :
    b.wasStarted c = (state = .started || state = .stopped) := by
  simp [wasStarted, state_newest place now]

theorem transition_newest (target : ContainerState) (place : c.place = older.length)
    (now : b.states = older ++ [state]) (allowed : state.canBecome target = true) :
    transition c target b = (.ok (), { b with states := older ++ [target] }) := by
  have valid : state.validate target = .ok () := by simp [ContainerState.validate, allowed]
  simp [transition, state_newest place now, valid, place, now]

end Bench

namespace ContainerStage

variable {E : Type} [Engine E] {b : Bench (Recorded E)} {older : List ContainerState}
  {params : Params} {creation : Creation}

/-! ### Creating and starting -/

theorem createContainer_invalid {cause : ParamsError} (invalid : params.validate = .error cause)
    (b : Bench (Recorded E)) : createContainer params b = (.error (.params cause), b) := by
  -- The parameters are checked before the engine is asked for anything.
  have refused : Action.ofExcept (params.validate.mapError ContainerError.params) b =
      (.error (.params cause), b) := by
    rw [invalid]
    rfl
  exact Action.bind_of_error refused

/-- The container is created with one call, and its handle is the newest of the bench. -/
theorem createContainer_vital (valid : params.validate = .ok ()) (b : Bench (Recorded E)) :
    ∃ answer outcome after, createContainer params b = (outcome, after) ∧
      after.vital = b.vital ++ [⟨.create params, answer⟩] ∧
      match answer with
      | .ok creation => outcome = .ok (.ofCreation b.states.length params creation) ∧
          after.states = b.states ++ [.created]
      | .error cause => outcome = .error (.engine .create cause) ∧ after.states = b.states := by
  have accepted : Action.ofExcept (params.validate.mapError ContainerError.params) b =
      (.ok (), b) := by
    rw [valid]
    rfl
  obtain ⟨answer, asked, called, vital, states⟩ := Bench.call_vital (.create params) rfl b
  have asking : Bench.ask (.create params) b = (answer.mapError (.engine .create), asked) := by
    rw [Bench.ask, Action.mapError, called]
    rfl
  cases answer with
  | error cause =>
    refine ⟨.error cause, .error (.engine .create cause), asked, ?_, vital, rfl, states⟩
    exact (Action.bind_of_ok accepted).trans (Action.bind_of_error asking)
  | ok creation =>
    refine ⟨.ok creation, .ok (.ofCreation b.states.length params creation),
      { asked with states := b.states ++ [.created] }, ?_, vital, rfl, rfl⟩
    refine (Action.bind_of_ok accepted).trans ((Action.bind_of_ok asking).trans ?_)
    rw [states]

/-- The container is started with one call. -/
theorem start_vital {c : Container} (place : c.place = older.length)
    (now : b.states = older ++ [.created]) :
    ∃ answer outcome after,
      (start : ContainerStage (Recorded E)).commission (some c) b = (outcome, after) ∧
      after.vital = b.vital ++ [⟨.start c.id, answer⟩] ∧
      match answer with
      | .ok () => outcome = .ok c ∧ after.states = older ++ [.started]
      | .error cause => outcome = .error (.engine .start cause) ∧
          after.states = older ++ [.created] := by
  obtain ⟨answer, asked, called, vital, states⟩ := Bench.call_vital (.start c.id) rfl b
  have asking : Bench.ask (.start c.id) b = (answer.mapError (.engine .start), asked) := by
    rw [Bench.ask, Action.mapError, called]
    rfl
  cases answer with
  | error cause =>
    refine ⟨.error cause, .error (.engine .start cause), asked, ?_, vital, rfl, states.trans now⟩
    exact Action.bind_of_error (Action.bind_of_error asking)
  | ok _ =>
    refine ⟨.ok (), .ok c, { asked with states := older ++ [.started] }, ?_, vital, rfl, rfl⟩
    have moved := Bench.transition_newest .started place (states.trans now) rfl
    exact Action.bind_of_ok ((Action.bind_of_ok asking).trans moved)

/-! ### Stopping and removing -/

omit [Engine E] in
/-- A call that releases something of the newest container, and the state that follows it. -/
theorem release_vital (c : Container) {state : ContainerState} (target : ContainerState)
    {step : Action (Bench (Recorded E)) EngineError Unit}
    {exchange : Except EngineError Unit → Exchange} (operation : EngineOperation)
    (calls : ∃ answer after, step b = (answer, after) ∧
      after.vital = b.vital ++ [exchange answer] ∧ after.states = b.states)
    (place : c.place = older.length) (now : b.states = older ++ [state])
    (allowed : state.canBecome target = true) :
    ∃ answer after, ((Bench.unlessGone step).mapError (.engine operation) >>= fun _ =>
        Bench.transition c target) b = (concluded operation answer, after) ∧
      after.vital = b.vital ++ [exchange answer] ∧
      after.states = older ++ [if settles answer = true then target else state] := by
  obtain ⟨answer, asked, called, vital, states⟩ := calls
  have released := Bench.unlessGone_concluded operation step b
  rw [called] at released
  -- The state moves only after a call that settles the matter.
  by_cases settled : settles answer = true
  · refine ⟨answer, { asked with states := older ++ [target] }, ?_, vital, by simp [settled]⟩
    have moved := Bench.transition_newest target place (states.trans now) allowed
    have done : concluded operation answer = .ok () := concluded_eq_ok_iff.mpr settled
    rw [done] at released ⊢
    exact (Action.bind_of_ok released).trans moved
  · refine ⟨answer, asked, ?_, vital, by simp [settled, states, now]⟩
    cases unsettled : concluded operation answer with
    | ok _ => exact absurd (concluded_eq_ok_iff.mp unsettled) settled
    | error cause =>
      rw [unsettled] at released
      exact Action.bind_of_error released

/-- A started container is stopped with one call if it does not end by itself. -/
theorem stopContainer_vital (params : Params) (creation : Creation)
    (now : b.states = older ++ [.started]) :
    ∃ answer outcome after,
      stopContainer (.ofCreation older.length params creation) b = (outcome, after) ∧
      after.vital = b.vital ++ params.stopping creation.id answer ∧
      after.states = older ++ [params.stoppedState answer] ∧
      ∀ key, report key outcome = lapses key (params.stopping creation.id answer) := by
  by_cases blocking : params.commandType = .blocking
  · have required : (Container.ofCreation older.length params creation).stopRequired = true := by
      simp [Container.stopRequired, Container.ofCreation, blocking, CommandType.requiresStop]
    -- The handle carries the timeout of the parameters.
    obtain ⟨answer, after, released, vital, states⟩ := release_vital
      (.ofCreation older.length params creation) .stopped .stop
      (Bench.call_vital (.stop creation.id (.ofSeconds params.stopTimeout.toNat)) rfl b) rfl now rfl
    refine ⟨answer, concluded .stop answer, after, ?_, ?_, ?_, fun key => ?_⟩
    · rw [stopContainer, if_pos required]
      exact released
    · simpa only [Params.stopping, if_pos blocking] using vital
    · simpa only [Params.stoppedState, blocking, true_and] using states
    · simp only [Params.stopping, if_pos blocking]
      exact report_concluded_stop key _ _ answer
  · have passed : (Container.ofCreation older.length params creation).stopRequired = false := by
      cases kind : params.commandType with
      | blocking => exact absurd kind blocking
      | exitingImmediately =>
        simp [Container.stopRequired, Container.ofCreation, kind, CommandType.requiresStop]
    -- Nothing is called, so any answer may stand for the one that was not given.
    refine ⟨.ok (), .ok (), b, ?_, ?_, ?_, fun key => ?_⟩
    · simp [stopContainer, passed]
    · simp [Params.stopping, blocking]
    · simpa [Params.stoppedState, blocking] using now
    · simp [Params.stopping, blocking, report, lapses]

omit [Engine E] in
/-- The removal looks at the state and at who is to remove the container, and at nothing else. -/
theorem leftToEngine_newest (c : Container) (leaves : Bool) {state : ContainerState}
    (place : c.place = older.length) (now : b.states = older ++ [state])
    (decided : (c.removesItself && (state = .started || state = .stopped)) = leaves) :
    (Action.read fun b => c.removesItself && b.wasStarted c :
      Action (Bench (Recorded E)) ContainerError Bool) b = (.ok leaves, b) := by
  rw [← decided, ← Bench.wasStarted_newest place now]
  rfl

theorem removesItself_ofCreation (place : Nat) :
    (Container.ofCreation place params creation).removesItself = !params.disableAutoRemove := by
  cases auto : params.disableAutoRemove <;>
    simp [Container.removesItself, Container.ofCreation, Params.stickiness, Params.autoRemove, auto]

/-- A container that was not started is removed with one call. -/
theorem removeContainer_created (params : Params) (creation : Creation)
    (now : b.states = older ++ [.created]) :
    ∃ answer outcome after,
      removeContainer (.ofCreation older.length params creation) b = (outcome, after) ∧
      after.vital = b.vital ++ [⟨.remove creation.id true, answer⟩] ∧
      after.states = older ++ [if settles answer = true then .removed else .created] ∧
      ∀ key, report key outcome = lapses key [⟨.remove creation.id true, answer⟩] := by
  -- Not having been started, it is nothing that the engine would remove.
  have looked := leftToEngine_newest (.ofCreation older.length params creation) false rfl now
    (by simp)
  obtain ⟨answer, after, released, vital, states⟩ := release_vital
    (.ofCreation older.length params creation) .removed .remove
    (Bench.call_vital (.remove creation.id true) rfl b) rfl now rfl
  refine ⟨answer, concluded .remove answer, after, ?_, vital, states, fun key => ?_⟩
  · exact (Action.bind_of_ok looked).trans released
  · exact report_concluded_remove key _ answer

/-- A container that was started is removed with one call, unless the engine removes it. -/
theorem removeContainer_started (params : Params) (creation : Creation) {state : ContainerState}
    (reached : state = .started ∨ state = .stopped) (now : b.states = older ++ [state]) :
    ∃ answer outcome after,
      removeContainer (.ofCreation older.length params creation) b = (outcome, after) ∧
      after.vital = b.vital ++ params.removing creation.id answer ∧
      after.states = older ++ [params.finalState state answer] ∧
      ∀ key, report key outcome = lapses key (params.removing creation.id answer) := by
  have allowed : state.canBecome .removed = true := by rcases reached with rfl | rfl <;> rfl
  have decided : ((Container.ofCreation older.length params creation).removesItself &&
      (state = .started || state = .stopped)) = !params.disableAutoRemove := by
    rw [removesItself_ofCreation]
    simpa using fun _ => reached
  have looked := leftToEngine_newest (.ofCreation older.length params creation) _ rfl now decided
  by_cases sticky : params.disableAutoRemove = true
  · obtain ⟨answer, after, released, vital, states⟩ := release_vital
      (.ofCreation older.length params creation) .removed .remove
      (Bench.call_vital (.remove creation.id true) rfl b) rfl now allowed
    rw [sticky] at looked
    refine ⟨answer, concluded .remove answer, after, ?_, ?_, ?_, fun key => ?_⟩
    · exact (Action.bind_of_ok looked).trans released
    · simpa [Params.removing, sticky] using vital
    · rw [states, Params.finalState]
      cases settles answer <;> simp [sticky]
    · simp only [Params.removing, if_pos sticky]
      exact report_concluded_remove key _ answer
  · -- It is left to the engine, and called removed without a call.
    have moved := Bench.transition_newest (c := .ofCreation older.length params creation) .removed
      rfl now allowed
    rw [eq_false_of_ne_true sticky] at looked
    refine ⟨.ok (), .ok (), { b with states := older ++ [.removed] }, ?_, ?_, ?_, fun key => ?_⟩
    · exact (Action.bind_of_ok looked).trans moved
    · simp [Params.removing, sticky, Bench.vital]
    · simp [Params.finalState, sticky]
    · simp [Params.removing, sticky, report, lapses]

end ContainerStage

end ContainerFixture
