import ContainerFixture.Proofs.Container.Life
import ContainerFixture.Proofs.Port.Reading

/-!
# What the plan of a manifest asks of the engine

Main result: `ResolvedManifest.plan_carried_out`. A manifest has a plan unless a pattern in it is
none. The plan has one stage for each thing that the manifest asks for, in the order of the
manifest, and commissioning its chain makes the one call of each stage in this order, up to the
stage that fails.

What a single stage asks is said once for each kind of stage (`Performs`); the chain follows by
induction on the things asked for.
-/

namespace ContainerFixture

open Text

/-- One thing that a manifest asks for. -/
inductive ManifestStep where
  | create (params : Params)
  | prepare (action : PreStartAction)
  | start
  | follow (action : PostStartAction)

namespace ManifestStep

def name : ManifestStep → String
  | create _ => "create-container"
  | prepare (.copy hostPath remote) => "copy " ++ hostPath ++ " into " ++ remote
  | start => "start-container"
  | follow (.awaitLog pattern stream _) => "await " ++ stream.text ++ " /" ++ pattern ++ "/"
  | follow (.exec command _) => "exec " ++ " ".intercalate command
  | follow (.copyOut remote hostPath) => "copy " ++ remote ++ " out to " ++ hostPath

/-- The call that carries a step out on a container. -/
def call (id : ContainerId) : ManifestStep → EngineCall
  | create params => .create params
  | prepare (.copy hostPath remote) => .copyTo id hostPath remote
  | start => .start id
  | follow (.awaitLog _ stream _) => .followLogs id stream
  | follow (.exec command env) => .exec id env command
  | follow (.copyOut remote hostPath) => .copyFrom id remote hostPath

/-- Whether a step is given up before the engine is asked: the parameters are invalid, or there is
nothing to copy. -/
def blocked {E : Type} [Engine E] (engine : E) : ManifestStep → Bool
  | create params => !params.validate.isOk
  | prepare (.copy hostPath _) => !Engine.pathExists hostPath engine
  | start | follow _ => false

end ManifestStep

/-- What a manifest asks for once there is a container, in order. -/
def ResolvedManifest.laterSteps (manifest : ResolvedManifest) : List ManifestStep :=
  manifest.preStart.map .prepare ++ .start :: manifest.postStart.map .follow

/-- All that a manifest asks for, in order. -/
def ResolvedManifest.steps (manifest : ResolvedManifest) : List ManifestStep :=
  .create manifest.params :: manifest.laterSteps

variable {E : Type}

/-! ### Calls between two benches -/

namespace Bench

/-- From one bench to another the engine was asked for this, in this order, and nothing else. -/
def Asks (b : Bench (Recorded E)) (requests : List EngineCall) (after : Bench (Recorded E)) :
    Prop :=
  ∃ made, after.engine.exchanges = b.engine.exchanges ++ made ∧
    made.map Exchange.request = requests

theorem Asks.refl (b : Bench (Recorded E)) : b.Asks [] b := ⟨[], by simp, rfl⟩

theorem Asks.trans {b between after : Bench (Recorded E)} {first second : List EngineCall}
    (before : b.Asks first between) (behind : between.Asks second after) :
    b.Asks (first ++ second) after := by
  obtain ⟨made, grown, rfl⟩ := before
  obtain ⟨more, grown', rfl⟩ := behind
  exact ⟨made ++ more, by rw [grown', grown, List.append_assoc], List.map_append⟩

theorem Asks.congr {b after after' : Bench (Recorded E)} {requests : List EngineCall}
    (asked : b.Asks requests after) (same : after'.engine = after.engine) :
    b.Asks requests after' := by
  unfold Asks
  rwa [same]

/-- What comes after a call and asks nothing more leaves it the only one. -/
theorem Asks.bind {α β : Type} {step : Action (Bench (Recorded E)) ContainerError α}
    {next : α → Action (Bench (Recorded E)) ContainerError β} {b : Bench (Recorded E)}
    {requests : List EngineCall} (asked : b.Asks requests (step b).2)
    (quiet : ∀ a s, (next a s).2.engine = s.engine) : b.Asks requests ((step >>= next) b).2 := by
  rcases performed : step b with ⟨cause | a, after⟩ <;> rw [performed] at asked
  · rw [Action.bind_of_error performed]
    exact asked
  · rw [Action.bind_of_ok performed]
    exact asked.congr (quiet a after)

theorem ask_asks [Engine E] (request : EngineCall) (b : Bench (Recorded E)) :
    b.Asks [request] (ask request b).2 := ⟨[_], rfl, rfl⟩

end Bench

theorem ContainerStage.onContainer_asks {name : String} {c : Container} {b : Bench (Recorded E)}
    {up down : Container → Action (Bench (Recorded E)) ContainerError Unit}
    {requests : List EngineCall} (asked : b.Asks requests (up c b).2) :
    b.Asks requests ((onContainer name up down).commission (some c) b).2 :=
  asked.bind fun _ _ => rfl

/-! ### What a single stage asks -/

variable [Engine E]

/-- The stage does what a step on a container asks for. -/
structure Performs (step : ManifestStep) (stage : ContainerStage (Recorded E)) : Prop where
  name : stage.name = step.name
  handsOn : stage.HandsOn
  blocked : ∀ c (b : Bench (Recorded E)), step.blocked b.engine = true →
    ∃ cause, stage.commission (some c) b = (.error cause, b)
  asks : ∀ c (b : Bench (Recorded E)), step.blocked b.engine = false →
    b.Asks [step.call c.id] (stage.commission (some c) b).2

namespace Performs

open ContainerStage (onContainer_asks onContainer_handsOn)

/-- A step that nothing holds up is performed by the stage that makes its call. -/
theorem ofCall {step : ManifestStep} {up down : Container → Action (Bench (Recorded E))
      ContainerError Unit} (free : ∀ engine : Recorded E, step.blocked engine = false)
    (asks : ∀ c (b : Bench (Recorded E)), b.Asks [step.call c.id] (up c b).2) :
    Performs step (ContainerStage.onContainer step.name up down) where
  name := rfl
  handsOn := onContainer_handsOn _ _ _
  blocked _ b given := by
    rw [free b.engine] at given
    cases given
  asks c b _ := onContainer_asks (asks c b)

theorem start : Performs .start (ContainerStage.start : ContainerStage (Recorded E)) := by
  refine ofCall (fun _ => rfl) fun c b => ?_
  refine (Bench.ask_asks (.start c.id) b).bind fun _ s => ?_
  unfold Bench.transition
  split <;> rfl

theorem preStart (action : PreStartAction) :
    Performs (.prepare action) (action.stage : ContainerStage (Recorded E)) := by
  obtain ⟨hostPath, remote⟩ := action
  refine ⟨rfl, onContainer_handsOn _ _ _, fun c b given => ?_, fun c b free => ?_⟩
  · have absent : Engine.pathExists hostPath b.engine = false := by
      simpa [ManifestStep.blocked] using given
    refine ⟨.missingSource hostPath, Action.bind_of_error ?_⟩
    simp only [Action.bind_apply, Action.read, absent, Bool.false_eq_true, if_false]
    rfl
  · have present : Engine.pathExists hostPath b.engine = true := by
      simpa [ManifestStep.blocked] using free
    refine onContainer_asks ?_
    simp only [Action.bind_apply, Action.read, present, if_true]
    exact Bench.ask_asks (.copyTo c.id hostPath remote) b

theorem postStart {action : PostStartAction} {stage : ContainerStage (Recorded E)}
    (built : action.stage? = .ok stage) : Performs (.follow action) stage := by
  -- no action after the start is given up before the engine was asked, and all that it makes of
  -- the answer asks nothing more
  cases action with
  | awaitLog source stream timeout =>
    simp only [PostStartAction.stage?, ContainerStage.awaitLog?] at built
    cases parsed : Pattern.parse? source with
    | none => simp [parsed] at built
    | some pattern =>
      simp only [parsed, Except.ok.injEq] at built
      subst built
      refine ofCall (fun _ => rfl) fun c b => ?_
      refine (Bench.ask_asks (.followLogs c.id stream) b).bind fun feed s => ?_
      cases LogFeed.watch feed pattern.occursIn (.ofSeconds timeout.toNat) <;> rfl
  | exec command env =>
    cases built
    refine ofCall (fun _ => rfl) fun c b => ?_
    refine (Bench.ask_asks (.exec c.id env command) b).bind fun output s => ?_
    split <;> rfl
  | copyOut remote hostPath =>
    cases built
    exact ofCall (fun _ => rfl) fun c b => Bench.ask_asks (.copyFrom c.id remote hostPath) b

end Performs

/-! ### What a chain asks -/

/-- The passes over stages that begin at a bench. -/
abbrev ContainerPass (E : Type) := List (ContainerStage (Recorded E)) →
  Lifecycle.Progress ContainerError Container ×
    List (CommittedStage (Bench (Recorded E)) ContainerError Container) × Bench (Recorded E)

/-- How far a pass over the stages of these steps came, the first of which stands at an index, and
what it asked on the way. -/
inductive CarriedOut (id : ContainerId) (index : Nat) (b : Bench (Recorded E))
    (pass : ContainerPass E) (steps : List ManifestStep)
    (stages : List (ContainerStage (Recorded E))) : Prop where
  /-- Every step was carried out. -/
  | all {product stack after} (passed : pass stages = (.ok product, stack, after))
      (asked : b.Asks (steps.map (·.call id)) after)
  /-- The steps before one were carried out, and this one failed, perhaps without a call. -/
  | upTo {front step rest product stack between cause stack' after}
      (split : steps = front ++ step :: rest)
      (before : pass (stages.take front.length) = (.ok product, stack, between))
      (failed : pass stages =
        (.error ⟨⟨index + front.length, step.name⟩, cause⟩, stack', after))
      (asked : b.Asks (front.map (·.call id) ++
        if step.blocked between.engine then [] else [step.call id]) after)

section

variable {id : ContainerId} {index : Nat} {input : Option Container}
  {stack : List (CommittedStage (Bench (Recorded E)) ContainerError Container)}
  {b reached : Bench (Recorded E)} {step : ManifestStep} {steps : List ManifestStep}
  {stage : ContainerStage (Recorded E)} {stages : List (ContainerStage (Recorded E))}

/-- The first step fails. -/
theorem CarriedOut.failed {cause : ContainerError} (named : stage.name = step.name)
    (commissioned : stage.commission input b = (.error cause, reached))
    (asked : b.Asks (if step.blocked b.engine then [] else [step.call id]) reached) :
    CarriedOut id index b (Lifecycle.climb index input stack · b) (step :: steps)
      (stage :: stages) := by
  have stopped : Lifecycle.climb index input stack (stage :: stages) b =
      (.error ⟨⟨index, step.name⟩, cause⟩, stack, reached) := by
    simp only [Lifecycle.climb, commissioned, named]
  exact .upTo (show step :: steps = [] ++ step :: steps from rfl) rfl stopped asked

/-- The first step is carried out, and a pass over the other ones goes on from there. -/
theorem CarriedOut.cons {product : Container}
    (commissioned : stage.commission input b = (.ok product, reached))
    (asked : b.Asks [step.call id] reached)
    (further : CarriedOut id (index + 1) reached
      (Lifecycle.climb (index + 1) (some product) (⟨index, stage, product⟩ :: stack) · reached)
      steps stages) :
    CarriedOut id index b (Lifecycle.climb index input stack · b) (step :: steps)
      (stage :: stages) := by
  have goesOn (others : List (ContainerStage (Recorded E))) :
      Lifecycle.climb index input stack (stage :: others) b = Lifecycle.climb (index + 1)
        (some product) (⟨index, stage, product⟩ :: stack) others reached := by
    simp only [Lifecycle.climb, commissioned]
  cases further with
  | all passed askedRest => exact .all ((goesOn stages).trans passed) (asked.trans askedRest)
  | @upTo front failing rest _ _ _ _ _ _ split before failed askedRest =>
    have place : index + 1 + front.length = index + (step :: front).length := by
      rw [List.length_cons]
      omega
    rw [place] at failed
    exact .upTo (show step :: steps = (step :: front) ++ failing :: rest by rw [split]; rfl)
      ((goesOn _).trans before) ((goesOn stages).trans failed) (asked.trans askedRest)

end

/-- A pass that was given a container carries out the steps on it. -/
theorem climb_carriedOut {c : Container} {steps : List ManifestStep}
    {stages : List (ContainerStage (Recorded E))} (performed : List.Forall₂ Performs steps stages)
    (index : Nat) (stack : List (CommittedStage (Bench (Recorded E)) ContainerError Container))
    (b : Bench (Recorded E)) :
    CarriedOut c.id index b (Lifecycle.climb index (some c) stack · b) steps stages := by
  -- on the steps and their stages; the pass begins anew at every stage, so its index, what is
  -- stacked and the bench vary
  induction performed generalizing index stack b with
  | nil => exact .all rfl (.refl b)
  | @cons step stage steps stages here _ ih =>
    cases blocked : step.blocked b.engine with
    | true =>
      obtain ⟨cause, commissioned⟩ := here.blocked c b blocked
      refine .failed here.name commissioned ?_
      rw [blocked, if_pos rfl]
      exact .refl b
    | false =>
      have asked := here.asks c b blocked
      rcases commissioned : stage.commission (some c) b with ⟨cause | product, reached⟩ <;>
        rw [commissioned] at asked
      · refine .failed here.name commissioned ?_
        rw [blocked]
        exact asked
      · -- the container is handed on, so the rest of the pass is given the same one
        cases here.handsOn c b product reached commissioned
        exact .cons commissioned asked (ih _ _ _)

/-! ### The plan of a manifest -/

/-- From a bench on, a container was created before anything else, under this id. -/
def CreatedFirst (params : Params) (id : ContainerId) (b after : Bench (Recorded E)) : Prop :=
  ∃ creation later, after.engine.exchanges =
    b.engine.exchanges ++ ⟨.create params, .ok creation⟩ :: later ∧ creation.id = id

theorem CarriedOut.grown {id : ContainerId} {index : Nat} {b : Bench (Recorded E)}
    {pass : ContainerPass E} {steps : List ManifestStep}
    {stages : List (ContainerStage (Recorded E))}
    (carried : CarriedOut id index b pass steps stages) :
    ∃ later, (pass stages).2.2.engine.exchanges = b.engine.exchanges ++ later := by
  cases carried with
  | all passed asked =>
    obtain ⟨made, grown, -⟩ := asked
    exact ⟨made, by rw [passed]; exact grown⟩
  | upTo _ _ failed asked =>
    obtain ⟨made, grown, -⟩ := asked
    exact ⟨made, by rw [failed]; exact grown⟩

/-- Valid parameters are handed to the engine in the only call of the creation. -/
theorem createContainer_exchanges {params : Params} (valid : params.validate = .ok ())
    (b : Bench (Recorded E)) :
    ∃ answer outcome after, ContainerStage.createContainer params b = (outcome, after) ∧
      after.engine.exchanges = b.engine.exchanges ++ [⟨.create params, answer⟩] ∧
      match answer with
      | .ok creation => ∃ c : Container, outcome = .ok c ∧ c.id = creation.id
      | .error cause => outcome = .error (.engine .create cause) := by
  have accepted : Action.ofExcept (params.validate.mapError ContainerError.params) b =
      (.ok (), b) := by
    rw [valid]
    rfl
  rcases called : Bench.call (.create params) b with ⟨answer, asked⟩
  have entered : asked.engine.exchanges = b.engine.exchanges ++ [⟨.create params, answer⟩] := by
    cases called
    rfl
  have asking : Bench.ask (.create params) b = (answer.mapError (.engine .create), asked) := by
    rw [Bench.ask, Action.mapError, called]
    rfl
  cases answer with
  | error cause =>
    refine ⟨.error cause, .error (.engine .create cause), asked, ?_, entered, rfl⟩
    exact (Action.bind_of_ok accepted).trans (Action.bind_of_error asking)
  | ok creation =>
    refine ⟨.ok creation, _, { asked with states := asked.states ++ [.created] }, ?_, entered,
      .ofCreation asked.states.length params creation, rfl, rfl⟩
    exact (Action.bind_of_ok accepted).trans (Action.bind_of_ok asking)

/-- A chain that creates a container first carries out the steps after it on that container. -/
theorem create_carriedOut {params : Params} {steps : List ManifestStep}
    {stages : List (ContainerStage (Recorded E))} (performed : List.Forall₂ Performs steps stages)
    (b : Bench (Recorded E)) :
    ∃ id, CarriedOut id 0 b (Lifecycle.climb 0 none [] · b) (.create params :: steps)
        (ContainerStage.create params :: stages) ∧
      ((∃ cause, (Lifecycle.climb 0 none [] (ContainerStage.create params :: stages) b).1 =
          .error ⟨⟨0, "create-container"⟩, cause⟩) ∨
        CreatedFirst params id b
          (Lifecycle.climb 0 none [] (ContainerStage.create params :: stages) b).2.2) := by
  -- a creation that fails ends the pass, whatever identifier one thinks of
  have stops {cause : ContainerError} {after : Bench (Recorded E)}
      (failed : (ContainerStage.create params).commission none b = (.error cause, after)) :
      (Lifecycle.climb 0 none [] (ContainerStage.create params :: stages) b).1 =
        .error ⟨⟨0, "create-container"⟩, cause⟩ := by
    rw [Lifecycle.climb, failed]
    rfl
  cases checked : params.validate with
  | error cause =>
    have refused : (ContainerStage.create params).commission none b = (.error (.params cause), b) :=
      ContainerStage.createContainer_invalid checked b
    refine ⟨⟨""⟩, .failed rfl refused ?_, .inl ⟨_, stops refused⟩⟩
    simp only [ManifestStep.blocked, checked]
    exact .refl b
  | ok _ =>
    obtain ⟨answer, outcome, after, created, entered, told⟩ :=
      createContainer_exchanges checked b
    have asked (id : ContainerId) : b.Asks [ManifestStep.call id (.create params)] after :=
      ⟨_, entered, rfl⟩
    have commissioned : (ContainerStage.create params).commission none b = (outcome, after) :=
      created
    cases answer with
    | error cause =>
      subst told
      refine ⟨⟨""⟩, .failed rfl commissioned ?_, .inl ⟨_, stops commissioned⟩⟩
      simp only [ManifestStep.blocked, checked]
      exact asked _
    | ok creation =>
      obtain ⟨c, rfl, same⟩ := told
      have further := climb_carriedOut performed 1 [⟨0, ContainerStage.create params, c⟩] after
        (c := c)
      refine ⟨c.id, .cons commissioned (asked c.id) further, .inr ?_⟩
      obtain ⟨later, grown⟩ := further.grown
      refine ⟨creation, later, ?_, same.symm⟩
      rw [Lifecycle.climb, commissioned]
      exact grown.trans (by rw [entered, List.append_assoc]; rfl)

theorem PostStartAction.stage?_eq_error_iff {action : PostStartAction} {cause : ContainerError} :
    (action.stage? : Except ContainerError (ContainerStage E)) = .error cause ↔
      cause = .invalidPattern ∧ ∃ pattern stream timeout,
        action = .awaitLog pattern stream timeout ∧ Pattern.parse? pattern = none := by
  cases action with
  | awaitLog source stream timeout =>
    simp only [stage?, ContainerStage.awaitLog?]
    cases parsed : Pattern.parse? source with
    | none => simp [parsed, eq_comm]
    | some pattern => simp [parsed]
  | exec | copyOut => simp [stage?]

/-- The actions after the start have their stages, unless a pattern in them is none. -/
theorem PostStartAction.stages_cases (E : Type) [Engine E] (actions : List PostStartAction) :
    (actions.mapM (stage? : _ → Except ContainerError (ContainerStage E)) =
        .error .invalidPattern ∧
      ∃ pattern stream timeout, .awaitLog pattern stream timeout ∈ actions ∧
        Pattern.parse? pattern = none) ∨
    ∃ stages, actions.mapM (stage? : _ → Except ContainerError (ContainerStage E)) = .ok stages ∧
      ∀ pattern stream timeout, .awaitLog pattern stream timeout ∈ actions →
        Pattern.parse? pattern ≠ none := by
  cases built : actions.mapM (stage? : _ → Except ContainerError (ContainerStage E)) with
  | error cause =>
    obtain ⟨action, mem, failed⟩ := exists_of_mapM_error built
    obtain ⟨rfl, pattern, stream, timeout, rfl, unread⟩ := stage?_eq_error_iff.mp failed
    exact Or.inl ⟨rfl, pattern, stream, timeout, mem, unread⟩
  | ok stages =>
    refine Or.inr ⟨stages, rfl, fun pattern stream timeout mem unread => ?_⟩
    obtain ⟨stage, made⟩ := exists_of_mapM_ok built _ mem
    have failed := (stage?_eq_error_iff (E := E)).mpr
      ⟨rfl, pattern, stream, timeout, rfl, unread⟩
    rw [made] at failed
    cases failed

theorem plan_performs {manifest : ResolvedManifest} (plan : ContainerPlan (Recorded E))
    (params : plan.params = manifest.params)
    (preStart : plan.preStart = manifest.preStart.map PreStartAction.stage)
    (postStart : List.Forall₂ (fun action stage => action.stage? = .ok stage) manifest.postStart
      plan.postStart) :
    ∃ stages, plan.stages = ContainerStage.create manifest.params :: stages ∧
      List.Forall₂ Performs manifest.laterSteps stages := by
  -- each of the three parts was built action by action
  refine ⟨plan.preStart ++ ContainerStage.start :: plan.postStart, ?_, ?_⟩
  · rw [ContainerPlan.stages, params]
    rfl
  · refine List.rel_append ?_ (.cons .start ?_)
    · rw [preStart, List.forall₂_map_left_iff, List.forall₂_map_right_iff]
      exact List.forall₂_same.mpr fun action _ => .preStart action
    · rw [List.forall₂_map_left_iff]
      exact postStart.imp fun action stage built => .postStart built

/-- A manifest has a plan unless a pattern in it is none. The stages of the plan are listed in the
order of the manifest, and a commissioning of their chain, before it undoes anything, has made the
call of each step up to the one that failed, on the container that it created, and no other call. -/
theorem ResolvedManifest.plan_carried_out (manifest : ResolvedManifest) :
    match (manifest.plan? : Except ContainerError (ContainerPlan (Recorded E))) with
    | .error cause => cause = .invalidPattern ∧ ∃ pattern stream timeout,
        .awaitLog pattern stream timeout ∈ manifest.postStart ∧ Pattern.parse? pattern = none
    | .ok plan =>
      (∀ pattern stream timeout, .awaitLog pattern stream timeout ∈ manifest.postStart →
        Pattern.parse? pattern ≠ none) ∧
      plan.stages.map Stage.name = manifest.steps.map ManifestStep.name ∧
      ∀ b : Bench (Recorded E),
        (Lifecycle.mk plan.stages []).commission b =
          (Lifecycle.mk plan.stages []).conclude (Lifecycle.climb 0 none [] plan.stages b) ∧
        ∃ id, CarriedOut id 0 b (Lifecycle.climb 0 none [] · b) manifest.steps plan.stages ∧
          ((∃ cause, (Lifecycle.climb 0 none [] plan.stages b).1 =
              .error ⟨⟨0, "create-container"⟩, cause⟩) ∨
            CreatedFirst manifest.params id b (Lifecycle.climb 0 none [] plan.stages b).2.2) := by
  unfold plan?
  rcases PostStartAction.stages_cases (Recorded E) manifest.postStart with
    ⟨unbuilt, bad⟩ | ⟨postStart, built, readable⟩
  · rw [unbuilt]
    exact ⟨rfl, bad⟩
  · obtain ⟨stages, chain, performed⟩ := plan_performs
      ⟨manifest.params, manifest.preStart.map PreStartAction.stage, postStart⟩ rfl rfl
      (mapM_eq_ok_iff.mp built)
    rw [built]
    refine ⟨readable, ?_, fun b => ?_⟩
    · -- a step and its stage have one name
      have named : stages.map Stage.name = manifest.laterSteps.map ManifestStep.name := by
        rw [← List.forall₂_eq_eq_eq, List.forall₂_map_left_iff, List.forall₂_map_right_iff]
        exact performed.flip.imp fun stage step performs => performs.name
      rw [chain, List.map_cons, named]
      rfl
    · rw [chain]
      exact ⟨Lifecycle.commission_free rfl b, create_carriedOut performed b⟩

end ContainerFixture
