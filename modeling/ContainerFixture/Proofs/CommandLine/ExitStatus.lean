import ContainerFixture.Proofs.CommandLine.Released
import ContainerFixture.Proofs.Container.Planned
import ContainerFixture.Proofs.Lifecycle.Reports
import ContainerFixture.Proofs.Provider.Events

/-!
# The exit status

The program tells what kind of failure it has by how the text of the failure begins. That text is
put together from what the manifest, the engine and the stages say.

## Main results

`statusOf_message`: the status is that of the kind of failure, whatever is in the text.
`Job.run_exits`: the exit status of `check`, `up` and `exec` is told from the first step that fails.

## Proof strategy

`Job.Ends` and `Job.Exits` tell the status from the steps, with one constructor for each way to end;
they know how the stages fare (`Ascent`, `Undone`, `Descent`) and nothing of texts, providers and
hooks. Every run ends in one of these ways (`Job.exists_ends`), and the program agrees with each of
them (`Job.Ends.status_eq`).
-/

namespace ContainerFixture.CommandLine

variable {E : Type}

/-! ### How a text begins -/

/-- A text begins with another. -/
def Begins (front text : String) : Prop := front.toList <+: text.toList

/-- Of two texts neither begins with the other. -/
def Apart (a b : String) : Bool :=
  !a.toList.isPrefixOf b.toList && !b.toList.isPrefixOf a.toList

namespace Begins

variable {front text more mark : String}

theorem refl (text : String) : Begins text text := List.prefix_refl _

theorem append (begins : Begins front text) : Begins front (text ++ more) := by
  rw [Begins, String.toList_append]
  exact begins.trans (List.prefix_append _ _)

theorem isPrefixOf_eq_true (begins : Begins front text)
    (marked : mark.toList.isPrefixOf front.toList = true) :
    mark.toList.isPrefixOf text.toList = true :=
  List.isPrefixOf_iff_prefix.mpr ((List.isPrefixOf_iff_prefix.mp marked).trans begins)

theorem isPrefixOf_eq_false (begins : Begins front text) (apart : Apart front mark = true) :
    mark.toList.isPrefixOf text.toList = false := by
  rw [Apart, Bool.and_eq_true, Bool.not_eq_true', Bool.not_eq_true'] at apart
  rw [Bool.eq_false_iff, ne_eq, List.isPrefixOf_iff_prefix]
  intro marked
  -- both are heads of one text, so one of them is the head of the other
  rcases List.prefix_or_prefix_of_prefix marked begins with within | within
  · rw [List.isPrefixOf_iff_prefix.mpr within] at apart
    cases apart.2
  · rw [List.isPrefixOf_iff_prefix.mpr within] at apart
    cases apart.1

theorem manifest (begins : Begins front text)
    (marked : "manifest error:".toList.isPrefixOf front.toList = true) :
    statusOf text = manifestFailure := by
  rw [statusOf, begins.isPrefixOf_eq_true marked, if_pos rfl]

theorem engine (begins : Begins front text) (apart : Apart front "manifest error:" = true)
    (marked : "engine error:".toList.isPrefixOf front.toList = true) :
    statusOf text = engineFailure := by
  rw [statusOf, begins.isPrefixOf_eq_false apart, begins.isPrefixOf_eq_true marked]
  rfl

theorem general (begins : Begins front text)
    (apart : (Apart front "manifest error:" && Apart front "engine error:") = true) :
    statusOf text = generalFailure := by
  rw [Bool.and_eq_true] at apart
  rw [statusOf, begins.isPrefixOf_eq_false apart.1, begins.isPrefixOf_eq_false apart.2]
  rfl

end Begins

/-! ### Kinds of failures -/

/-- The exit status that goes with a failure, whatever its text. -/
def Failure.status : Failure → Nat
  | manifest _ | plan .invalidPattern => manifestFailure
  | unknownEngine _ | portListing _ | execution _ => engineFailure
  | provisioning cause => if isEngineFault cause then engineFailure else generalFailure
  | plan _ | teardown _ | badListing _ | badImage _ => generalFailure

theorem statusOf_containerError (cause : ContainerError) :
    statusOf cause.message = generalFailure := by
  cases cause with
  | engine | invalidTransition | execFailed =>
    exact (Begins.refl _).append.append.append.general (by decide)
  | readinessTimeout =>
    exact (Begins.refl _).append.append.append.append.append.general (by decide)
  | logStreamEnded _ stream =>
    -- this text begins with the name of the stream
    cases stream <;> exact (Begins.refl _).append.append.append.general (by decide)
  | params | missingSource => exact (Begins.refl _).append.general (by decide)
  | invalidPattern | noContainer => exact (Begins.refl _).general (by decide)

theorem statusOf_lifecycleError (cause : LifecycleError ContainerError) :
    statusOf (cause.message ContainerError.message) = generalFailure := by
  cases cause with
  | commission => exact (Begins.refl _).append.append.append.append.general (by decide)
  | decommission | firstProvision | exitHook =>
    exact (Begins.refl _).append.general (by decide)
  | alreadyFinished | alreadyCommissioned => exact (Begins.refl _).general (by decide)

/-- What is said in the text of a failure does not change its status. -/
theorem statusOf_message (failure : Failure) : statusOf failure.message = failure.status := by
  cases failure with
  | manifest => exact (Begins.refl _).append.manifest (by decide)
  | unknownEngine | portListing | execution =>
    exact (Begins.refl _).append.engine (by decide) (by decide)
  | provisioning cause =>
    show statusOf (if isEngineFault cause then _ else _) = if isEngineFault cause then _ else _
    split
    · exact (Begins.refl _).append.engine (by decide) (by decide)
    · exact statusOf_lifecycleError cause
  | plan cause =>
    cases cause with
    | invalidPattern => exact (Begins.refl _).append.manifest (by decide)
    | _ => exact statusOf_containerError _
  | teardown | badListing | badImage => exact (Begins.refl _).append.general (by decide)

/-! ### Ways to end -/

/-- What is done with a manifest. -/
inductive Job where
  | inspect
  | perform (errand : Errand)
deriving DecidableEq, Repr

def Job.command (path : String) : Job → Command
  | inspect => .check path
  | perform errand => errand.command path

/-- One of the patterns that a container is to write cannot be read. -/
def HasBadPattern (manifest : ResolvedManifest) : Prop :=
  ∃ pattern stream timeout, .awaitLog pattern stream timeout ∈ manifest.postStart ∧
    Pattern.parse? pattern = none

section
variable [Engine E]

/-- The use of a container fails. -/
inductive Errand.Fails (c : Container) (world : Bench E) : Errand → Prop where
  | up {cause : ContainerError} {after : Bench E}
      (unlisted : Bench.portBindings c world = (.error cause, after)) : Fails c world .up
  | exec {arguments : List String} {cause : ContainerError} {after : Bench E}
      (lost : Bench.exec c .empty arguments world = (.error cause, after)) :
    Fails c world (.exec arguments)

/-- The use of a container succeeds, with the status that it is to end with. -/
inductive Errand.Yields (c : Container) (world after : Bench E) : Errand → Nat → Prop where
  | up {bindings : List PortBinding}
      (listed : Bench.portBindings c world = (.ok bindings, after)) : Yields c world after .up 0
  | exec {arguments : List String} {output : ExecOutput} {status : Nat}
      (ran : Bench.exec c .empty arguments world = (.ok output, after))
      (code : output.exitCode = status) (fits : status ≤ 255) :
    Yields c world after (.exec arguments) status
  | unfit {arguments : List String} {output : ExecOutput}
      (ran : Bench.exec c .empty arguments world = (.ok output, after))
      (unfit : output.exitCode < 0 ∨ 255 < output.exitCode) :
    Yields c world after (.exec arguments) 1

/-- All stages of the plan came through, the last of them handed out a container, and the exit hook
was taken. -/
structure Brought (hooks : HookHost) (manifest : ResolvedManifest) (engine : E)
    (stages : List (ContainerStage E)) (products : List Container) (c : Container)
    (world : Bench E) : Prop where
  planned : stagesOf E manifest = .ok stages
  climbed : Ascent none stages { engine } products world
  handed : products.getLast? = some c
  taken : ∀ reason, hooks ≠ .refusing reason

/-- The ways to end on an engine, by the first step that fails, each with its exit status. -/
inductive Job.Ends (hooks : HookHost) (manifest : ResolvedManifest) (engine : E) :
    Job → Nat → Prop where
  | badPattern {job : Job} (bad : HasBadPattern manifest) : Ends hooks manifest engine job 2
  | checked (good : ¬ HasBadPattern manifest) : Ends hooks manifest engine .inspect 0
  | engineFault {errand : Errand} {stages : List (ContainerStage E)} {key : StageKey}
      {operation : EngineOperation} {refusal : EngineError}
      {unwinding : List (StageFailure ContainerError)} (planned : stagesOf E manifest = .ok stages)
      (undone : Undone stages { engine } key (.engine operation refusal) unwinding) :
    Ends hooks manifest engine (.perform errand) 3
  | stageFault {errand : Errand} {stages : List (ContainerStage E)} {key : StageKey}
      {cause : ContainerError} {unwinding : List (StageFailure ContainerError)}
      (planned : stagesOf E manifest = .ok stages)
      (undone : Undone stages { engine } key cause unwinding)
      (own : ∀ operation refusal, cause ≠ .engine operation refusal) :
    Ends hooks manifest engine (.perform errand) 1
  | hookRefused {errand : Errand} {stages : List (ContainerStage E)} {products : List Container}
      {world : Bench E} {reason : String} (planned : stagesOf E manifest = .ok stages)
      (climbed : Ascent none stages { engine } products world)
      (refused : hooks = .refusing reason) : Ends hooks manifest engine (.perform errand) 1
  | useFailed {errand : Errand} {stages : List (ContainerStage E)} {products : List Container}
      {c : Container} {world : Bench E}
      (brought : Brought hooks manifest engine stages products c world)
      (failed : errand.Fails c world) : Ends hooks manifest engine (.perform errand) 3
  | teardownFailed {errand : Errand} {stages : List (ContainerStage E)} {products : List Container}
      {c : Container} {world after last : Bench E} {status : Nat} {cause : ContainerError}
      {outcomes : List (Except ContainerError Unit)}
      (brought : Brought hooks manifest engine stages products c world)
      (used : errand.Yields c world after status)
      (released : Descent stages products after outcomes last)
      (failed : .error cause ∈ outcomes) : Ends hooks manifest engine (.perform errand) 1
  | done {errand : Errand} {stages : List (ContainerStage E)} {products : List Container}
      {c : Container} {world after last : Bench E} {status : Nat}
      {outcomes : List (Except ContainerError Unit)}
      (brought : Brought hooks manifest engine stages products c world)
      (used : errand.Yields c world after status)
      (released : Descent stages products after outcomes last)
      (clean : ∀ outcome ∈ outcomes, outcome = .ok ()) :
    Ends hooks manifest engine (.perform errand) status

end

/-- The ways to end, from the manifest file and the name of the engine on. The exit hooks are those
of the process. -/
inductive Job.Exits (name path : String) (host : Host) (job : Job) : Nat → Prop where
  | manifest {cause : Manifest.LoadError} (failed : Manifest.load host.files path = .error cause) :
    Exits name path host job 2
  | engine {manifest : ResolvedManifest} {cause : EngineError}
      (loaded : Manifest.load host.files path = .ok manifest)
      (unknown : EngineKind.ofText name = .error cause) : Exits name path host job 3
  | docker {manifest : ResolvedManifest} {status : Nat}
      (loaded : Manifest.load host.files path = .ok manifest)
      (named : EngineKind.ofText name = .ok .docker)
      (ends : job.Ends .process manifest { host.client with files := host.files } status) :
    Exits name path host job status
  | memory {manifest : ResolvedManifest} {status : Nat}
      (loaded : Manifest.load host.files path = .ok manifest)
      (named : EngineKind.ofText name = .ok .memory)
      (ends : job.Ends .process manifest ({ files := host.files } : MemoryEngine) status) :
    Exits name path host job status

/-! ### Sessions -/

/-- A session with one provider whose exit hook goes to this host. -/
def Session.hooked (hooks : HookHost) (engine : E) (stages : List (ContainerStage E)) :
    Session E where
  group := .ofChains { engine } [(stages, .global hooks)]

/-- The session after something was done on its bench. -/
def Session.moved (world : Bench E) (s : Session E) : Session E :=
  { s with group := { s.group with world } }

theorem Session.onBench_eq {α : Type} {step : Action (Bench E) ContainerError α} {s : Session E}
    {outcome : Except ContainerError α} {after : Bench E}
    (done : step s.group.world = (outcome, after)) :
    Session.onBench step s = (outcome, s.moved after) := by
  simp only [Session.onBench, Action.within, done]
  rfl

section
variable {hooks : HookHost} {engine : E} {stages : List (ContainerStage E)}
  {products : List Container} {world after : Bench E}

/-- The lifecycle with all of its stages committed. -/
def wholeOf (stages : List (ContainerStage E)) (products : List Container) :
    Lifecycle (Bench E) ContainerError Container where
  stages
  committed := (CommittedStage.place 0 stages products).reverse

/-- What is held is torn down with the failures of its stages, all together. -/
theorem decommission_wholeOf {last : Bench E} {outcomes : List (Except ContainerError Unit)}
    (released : Descent stages products after outcomes last) :
    ((wholeOf stages products).decommission after).1 =
      if (gather 0 stages outcomes).isEmpty then .ok ()
      else .error (.decommission (gather 0 stages outcomes)) := by
  simp only [Lifecycle.decommission, wholeOf, released.sweep]

/-- What is held is torn down without a failure just if no stage has one. -/
theorem decommission_of_descent {last : Bench E} {outcomes : List (Except ContainerError Unit)}
    (released : Descent stages products after outcomes last) :
    ((wholeOf stages products).decommission after).1 = .ok () ↔
      ∀ outcome ∈ outcomes, outcome = .ok () := by
  have none_iff : gather 0 stages outcomes = [] ↔ ∀ outcome ∈ outcomes, outcome = .ok () :=
    gather_eq_nil_iff released.length_outcomes
  rw [← none_iff, decommission_wholeOf released]
  cases gather 0 stages outcomes <;> simp

theorem Session.provide_of_undone {key : StageKey} {cause : ContainerError}
    {unwinding : List (StageFailure ContainerError)}
    (undone : Undone stages { engine } key cause unwinding) :
    (Session.provide (Session.hooked hooks engine stages)).1 =
      .error (.provisioning (.firstProvision (.commission key cause unwinding))) := by
  obtain ⟨answered, -⟩ := Lifecycle.commission_of_undone (l := { stages }) rfl undone
  rcases commissioned : Lifecycle.commission { stages } { engine } with ⟨outcome, l, after⟩
  rw [commissioned] at answered
  cases (answered : outcome = _)
  obtain ⟨g, given, -⟩ := ProviderGroup.provide_unwound commissioned
  have provided : (Session.hooked hooks engine stages).group.provide 0 = (_, g) := given
  simp only [Session.provide, provided]
  rfl

theorem Session.provide_of_refused {reason : String}
    (climbed : Ascent none stages { engine } products world) :
    (Session.provide (Session.hooked (.refusing reason) engine stages)).1 =
      .error (.provisioning (.firstProvision (.exitHook reason))) := by
  have commissioned := Lifecycle.commission_of_ascent (l := { stages }) rfl climbed
  have stands : (Session.hooked (.refusing reason) engine stages).group.Stands stages
      (.global (.refusing reason)) { engine } .new := .ofChains ..
  have given : ((Session.hooked (.refusing reason) engine stages).group.provide 0).1 =
      ⟨0, .error (.exitHook reason)⟩ := by
    rw [ProviderGroup.provide, stands.unreactive.emitFrom]
    exact congrArg Prod.fst (stands.provideWith_turnedAway commissioned)
  rcases provided : (Session.hooked (.refusing reason) engine stages).group.provide 0 with
    ⟨provision, g⟩
  rw [provided] at given
  cases given
  simp only [Session.provide, provided]
  rfl

theorem Session.provide_of_brought [Engine E] {manifest : ResolvedManifest} {c : Container}
    (brought : Brought hooks manifest engine stages products c world) :
    ∃ s, Session.provide (Session.hooked hooks engine stages) = (.ok c, s) ∧
      s.group.Holds (wholeOf stages products) ∧ s.group.world = world := by
  have commissioned := Lifecycle.commission_of_ascent (l := { stages }) rfl brought.climbed
  rw [brought.handed] at commissioned
  obtain ⟨g, given, holds, there⟩ := ProviderGroup.provide_held brought.taken commissioned
  have provided : (Session.hooked hooks engine stages).group.provide 0 = (_, g) := given
  refine ⟨{ group := g }, ?_, holds, there⟩
  simp only [Session.provide, provided]
  rfl

end

section
variable [Engine E]

/-- How the program ends with a manifest on an engine if the exit hook goes to this host. -/
def Job.outcomeOn (hooks : HookHost) (json : Bool) (manifest : ResolvedManifest) (engine : E)
    (job : Job) : Outcome :=
  match stagesOf E manifest with
  | .error cause => Outcome.ofResult "" "" (.error (.plan cause))
  | .ok stages =>
    match job with
    | .inspect => ⟨success, check manifest (stages.map Stage.name) json, ""⟩
    | .perform errand => (Session.conclude (errand.action json) (.hooked hooks engine stages)).1

/-- The program has its exit hooks run by the process. -/
theorem Job.runOn_eq (job : Job) (path : String) (json : Bool) (manifest : ResolvedManifest)
    (engine : E) : (runOn (job.command path) json manifest engine).1 =
      job.outcomeOn .process json manifest engine := by
  unfold runOn outcomeOn
  cases stagesOf E manifest with
  | error cause => rfl
  | ok stages => rcases job with _ | _ | _ <;> rfl

variable {c : Container} {world after : Bench E} {errand : Errand} {json : Bool}
  {s s' : Session E} {failure : Failure}

/-- If nothing is provided, this is what the errand ends with. -/
theorem Errand.action_of_unprovided (json : Bool) (errand : Errand)
    (unprovided : (Session.provide s).1 = .error failure) :
    (errand.action json s).1 = .error failure := by
  rcases provided : Session.provide s with ⟨outcome, s'⟩
  rw [provided] at unprovided
  cases (unprovided : outcome = _)
  cases errand with
  | up => exact congrArg Prod.fst (Action.bind_of_error provided)
  | exec => exact congrArg Prod.fst (Action.bind_of_error provided)

/-- How an errand fails for which the container could not be used. -/
def Errand.useFailure : Errand → ContainerError → Failure
  | up => .portListing
  | exec _ => .execution

theorem Errand.status_useFailure (errand : Errand) (cause : ContainerError) :
    (errand.useFailure cause).status = 3 := by
  cases errand <;> rfl

theorem Errand.action_of_fails (provided : Session.provide s = (.ok c, s'))
    (failed : errand.Fails c s'.group.world) :
    ∃ request cause after, Bench.ask request s'.group.world = (.error cause, after) ∧
      (errand.action json s).1 = .error (errand.useFailure cause) := by
  cases failed with
  | @up cause after unlisted =>
    have asked : ((Session.onBench (Bench.portBindings c)).mapError Failure.portListing) s' =
        (.error (.portListing cause), s'.moved after) := by
      simp only [Action.mapError, Session.onBench_eq unlisted, Except.mapError]
    refine ⟨.portBindings c.id, cause, after, unlisted, ?_⟩
    simp only [action, CommandLine.up, Action.bind_of_ok provided, Action.bind_of_error asked]
    rfl
  | @exec arguments cause after lost =>
    have ran : ((Session.onBench (Bench.exec c .empty arguments)).attempt :
        Action (Session E) Failure _) s' = (.ok (.error cause), s'.moved after) := by
      simp only [Action.attempt, Session.onBench_eq lost]
    -- the container is torn down all the same, and how that goes is not said
    refine ⟨.exec c.id .empty arguments, cause, after, lost, ?_⟩
    simp only [action, CommandLine.exec, Action.bind_of_ok provided, Action.bind_of_ok ran]
    rfl

theorem programStatus_of_fits {status : Nat} (fits : status ≤ 255) :
    programStatus status = status := by
  have within : (0 ≤ (status : Int) && (status : Int) ≤ 255) = true := by
    simp only [Bool.and_eq_true, decide_eq_true_eq]
    omega
  rw [programStatus, if_pos within, Int.toNat_natCast]

theorem programStatus_of_unfit {code : Int} (unfit : code < 0 ∨ 255 < code) :
    programStatus code = 1 := by
  refine if_neg fun within => ?_
  simp only [Bool.and_eq_true, decide_eq_true_eq] at within
  omega

/-- How an errand ends after the use of the container, by how its teardown goes. -/
def resultOf (status : Nat) : Except (LifecycleError ContainerError) Unit → Except Failure Nat
  | .ok () => .ok status
  | .error cause => .error (.teardown cause)

theorem up_result {bindings : List PortBinding} (provided : Session.provide s = (.ok c, s'))
    (listed : Bench.portBindings c s'.group.world = (.ok bindings, after)) :
    (CommandLine.up json s).1 = resultOf 0 ((s'.moved after).group.finishNow 0).1 := by
  have asked : ((Session.onBench (Bench.portBindings c)).mapError Failure.portListing) s' =
      (.ok bindings, s'.moved after) := by
    simp only [Action.mapError, Session.onBench_eq listed, Except.mapError]
  rw [CommandLine.up, Action.bind_of_ok provided, Action.bind_of_ok asked]
  -- what is printed in between does not touch the provider
  rcases ended : (s'.moved after).group.finishNow 0 with ⟨_ | _, g⟩ <;> cases json <;>
    simp only [Action.bind_apply, Action.pure_apply, Action.read, Session.print, Session.note,
      Session.printLine, Action.change, Action.mapError, Session.finishNow, ended,
      Except.mapError, if_true, Bool.false_eq_true, if_false] <;> rfl

theorem exec_result {arguments : List String} {output : ExecOutput}
    (provided : Session.provide s = (.ok c, s'))
    (ran : Bench.exec c .empty arguments s'.group.world = (.ok output, after)) :
    (CommandLine.exec arguments json s).1 =
      resultOf (programStatus output.exitCode) ((s'.moved after).group.finishNow 0).1 := by
  have answered : ((Session.onBench (Bench.exec c .empty arguments)).attempt :
      Action (Session E) Failure _) s' = (.ok (.ok output), s'.moved after) := by
    simp only [Action.attempt, Session.onBench_eq ran]
  rw [CommandLine.exec, Action.bind_of_ok provided, Action.bind_of_ok answered]
  rcases ended : (s'.moved after).group.finishNow 0 with ⟨_ | _, g⟩ <;> cases json <;>
    simp only [Action.bind_apply, Action.pure_apply, Session.print, Session.note, Action.change,
      Action.attempt, Session.finishNow, ended, Action.ofExcept, Except.mapError, if_true,
      Bool.false_eq_true, if_false] <;> rfl

theorem Errand.action_of_yields (json : Bool)
    {l : Lifecycle (Bench E) ContainerError Container} {status : Nat}
    (provided : Session.provide s = (.ok c, s')) (holds : s'.group.Holds l)
    (used : errand.Yields c s'.group.world after status) :
    (errand.action json s).1 = resultOf status (l.decommission after).1 := by
  -- whatever was done on the bench, the provider still holds the lifecycle
  have still : (s'.moved after).group.Holds l :=
    ⟨holds.alone, holds.quiet, holds.running, holds.lifecycle⟩
  have torn : ((s'.moved after).group.finishNow 0).1 = (l.decommission after).1 := still.finishNow
  rw [← torn]
  cases used with
  | up listed => exact up_result provided listed
  | exec ran code fits =>
    rw [action, exec_result provided ran, code, programStatus_of_fits fits]
  | unfit ran unfit => rw [action, exec_result provided ran, programStatus_of_unfit unfit]

/-! ### Every run ends in one of these ways -/

/-- Without a bad pattern there is a plan. -/
theorem stagesOf_cases (E : Type) [Engine E] (manifest : ResolvedManifest) :
    (HasBadPattern manifest ∧ stagesOf E manifest = .error .invalidPattern) ∨
      (¬ HasBadPattern manifest ∧ ∃ stages, stagesOf E manifest = .ok stages) := by
  unfold stagesOf ResolvedManifest.plan?
  rcases PostStartAction.stages_cases E manifest.postStart with
    ⟨unbuilt, bad⟩ | ⟨postStart, built, readable⟩
  · rw [unbuilt]
    exact Or.inl ⟨bad, rfl⟩
  · rw [built]
    refine Or.inr ⟨?_, _, rfl⟩
    rintro ⟨pattern, stream, timeout, mem, unread⟩
    exact readable pattern stream timeout mem unread

/-- A plan has stages, so that the last of them hands out a container. -/
theorem exists_handed {manifest : ResolvedManifest} {engine : E} {stages : List (ContainerStage E)}
    {products : List Container} (planned : stagesOf E manifest = .ok stages)
    (climbed : Ascent none stages { engine } products world) :
    ∃ c, products.getLast? = some c := by
  have some := climbed.length_products
  rw [length_of_stagesOf planned] at some
  rw [← Option.isSome_iff_exists, List.getLast?_isSome]
  rintro rfl
  cases some

theorem Errand.fails_or_yields (errand : Errand) (c : Container) (world : Bench E) :
    errand.Fails c world ∨ ∃ after status, errand.Yields c world after status := by
  cases errand with
  | up =>
    rcases listed : Bench.portBindings c world with ⟨cause | bindings, after⟩
    · exact Or.inl (.up listed)
    · exact Or.inr ⟨after, 0, .up listed⟩
  | exec arguments =>
    rcases ran : Bench.exec c .empty arguments world with ⟨cause | output, after⟩
    · exact Or.inl (.exec ran)
    · by_cases unfit : output.exitCode < 0 ∨ 255 < output.exitCode
      · exact Or.inr ⟨after, 1, .unfit ran unfit⟩
      · exact Or.inr ⟨after, output.exitCode.toNat, .exec ran (by omega) (by omega)⟩

/-- A container that was brought up is used and torn down. -/
theorem Brought.exists_ends {hooks : HookHost} {manifest : ResolvedManifest} {engine : E}
    {stages : List (ContainerStage E)} {products : List Container}
    (brought : Brought hooks manifest engine stages products c world) (errand : Errand) :
    ∃ status, (Job.perform errand).Ends hooks manifest engine status := by
  rcases errand.fails_or_yields c world with failed | ⟨after, status, used⟩
  · exact ⟨3, .useFailed brought failed⟩
  obtain ⟨outcomes, last, released⟩ :=
    Descent.exists_of_length brought.climbed.length_products after
  by_cases clean : ∀ outcome ∈ outcomes, outcome = .ok ()
  · exact ⟨status, .done brought used released clean⟩
  · push Not at clean
    obtain ⟨outcome, mem, failed⟩ := clean
    cases outcome with
    | ok => exact absurd rfl failed
    | error cause => exact ⟨1, .teardownFailed brought used released mem⟩

theorem Job.exists_ends (hooks : HookHost) (manifest : ResolvedManifest) (engine : E) (job : Job) :
    ∃ status, job.Ends hooks manifest engine status := by
  rcases stagesOf_cases E manifest with ⟨bad, -⟩ | ⟨good, stages, planned⟩
  · exact ⟨2, .badPattern bad⟩
  cases job with
  | inspect => exact ⟨0, .checked good⟩
  | perform errand =>
    rcases ascends_or_undone stages { engine } with
      ⟨products, world, climbed⟩ | ⟨key, cause, unwinding, undone⟩
    · obtain ⟨c, handed⟩ := exists_handed planned climbed
      cases hooks with
      | refusing reason => exact ⟨1, .hookRefused planned climbed rfl⟩
      | manual | process => exact Brought.exists_ends ⟨planned, climbed, handed, by simp⟩ errand
    · cases cause with
      | engine operation refusal => exact ⟨3, .engineFault planned undone⟩
      | _ => exact ⟨1, .stageFault planned undone nofun⟩

/-! ### The program agrees -/

/-- The exit status that goes with the result of a command. -/
def statusOfResult : Except Failure Nat → Nat
  | .ok status => status
  | .error failure => failure.status

theorem status_ofResult (stdout stderr : String) (result : Except Failure Nat) :
    (Outcome.ofResult stdout stderr result).status = statusOfResult result := by
  cases result with
  | ok status => rfl
  | error failure => exact statusOf_message failure

/-- The status is told from the result of the command. -/
theorem Job.status_outcomeOn {hooks : HookHost} {manifest : ResolvedManifest} {engine : E}
    {stages : List (ContainerStage E)} {errand : Errand} {result : Except Failure Nat}
    (planned : stagesOf E manifest = .ok stages)
    (ran : (errand.action json (Session.hooked hooks engine stages)).1 = result) :
    ((Job.perform errand).outcomeOn hooks json manifest engine).status =
      statusOfResult result := by
  rw [← ran]
  simp only [outcomeOn, planned, Session.conclude]
  exact status_ofResult ..

theorem isEngineFault_of_own {key : StageKey} {cause : ContainerError}
    {unwinding : List (StageFailure ContainerError)}
    (own : ∀ operation refusal, cause ≠ .engine operation refusal) :
    isEngineFault (.firstProvision (.commission key cause unwinding)) = false := by
  cases cause with
  | engine operation refusal => exact absurd rfl (own operation refusal)
  | _ => rfl

theorem Job.Ends.status_eq {hooks : HookHost} {manifest : ResolvedManifest} {engine : E} {job : Job}
    {status : Nat} (ends : job.Ends hooks manifest engine status) (json : Bool) :
    (job.outcomeOn hooks json manifest engine).status = status := by
  cases ends with
  | badPattern bad =>
    rcases stagesOf_cases E manifest with ⟨-, unplanned⟩ | ⟨good, -⟩
    · simp only [outcomeOn, unplanned]
      exact status_ofResult ..
    · exact absurd bad good
  | checked good =>
    rcases stagesOf_cases E manifest with ⟨bad, -⟩ | ⟨-, stages, planned⟩
    · exact absurd bad good
    · simp only [outcomeOn, planned]
      rfl
  | engineFault planned undone =>
    exact status_outcomeOn planned
      (Errand.action_of_unprovided json _ (Session.provide_of_undone undone))
  | stageFault planned undone own =>
    refine (status_outcomeOn planned
      (Errand.action_of_unprovided json _ (Session.provide_of_undone undone))).trans ?_
    exact if_neg (by simp [isEngineFault_of_own own])
  | hookRefused planned climbed refused =>
    subst refused
    exact status_outcomeOn planned
      (Errand.action_of_unprovided json _ (Session.provide_of_refused climbed))
  | useFailed brought failed =>
    obtain ⟨s, provided, -, here⟩ := Session.provide_of_brought brought
    rw [← here] at failed
    obtain ⟨-, cause, -, -, ran⟩ := Errand.action_of_fails provided failed
    exact (status_outcomeOn brought.planned ran).trans (Errand.status_useFailure _ cause)
  | teardownFailed brought used released failed =>
    obtain ⟨s, provided, holds, here⟩ := Session.provide_of_brought brought
    rw [← here] at used
    have ran := Errand.action_of_yields json provided holds used
    cases torn : ((wholeOf _ _).decommission _).1 with
    | ok => cases (decommission_of_descent released).mp torn _ failed
    | error cause =>
      rw [torn] at ran
      exact status_outcomeOn brought.planned ran
  | done brought used released clean =>
    obtain ⟨s, provided, holds, here⟩ := Session.provide_of_brought brought
    rw [← here] at used
    have ran := Errand.action_of_yields json provided holds used
    rw [(decommission_of_descent released).mpr clean] at ran
    exact status_outcomeOn brought.planned ran

theorem Job.status_outcomeOn_iff (job : Job) (json : Bool) (hooks : HookHost)
    (manifest : ResolvedManifest) (engine : E) (status : Nat) :
    (job.outcomeOn hooks json manifest engine).status = status ↔
      job.Ends hooks manifest engine status := by
  constructor
  · rintro rfl
    obtain ⟨status, ends⟩ := job.exists_ends hooks manifest engine
    rw [ends.status_eq json]
    exact ends
  · intro ends
    exact ends.status_eq json

end

/-! ### The program -/

variable {name path : String} {host : Host} {job : Job} {status : Nat}

theorem run_command (job : Job) (name path : String) (json : Bool) (host : Host) :
    run ⟨name, json, job.command path⟩ host =
      onManifest ⟨name, json, job.command path⟩ path host := by
  rcases job with _ | _ | _ <;> rfl

theorem Job.exists_exits (job : Job) (name path : String) (host : Host) :
    ∃ status, job.Exits name path host status := by
  cases loaded : Manifest.load host.files path with
  | error cause => exact ⟨2, .manifest loaded⟩
  | ok manifest =>
    cases named : EngineKind.ofText name with
    | error cause => exact ⟨3, .engine loaded named⟩
    | ok kind =>
      cases kind with
      | docker =>
        obtain ⟨status, ends⟩ := job.exists_ends .process manifest
          { host.client with files := host.files }
        exact ⟨status, .docker loaded named ends⟩
      | memory =>
        obtain ⟨status, ends⟩ := job.exists_ends .process manifest
          ({ files := host.files } : MemoryEngine)
        exact ⟨status, .memory loaded named ends⟩

theorem Job.Exits.status_eq (exits : job.Exits name path host status) (json : Bool) :
    (run ⟨name, json, job.command path⟩ host).1.status = status := by
  rw [run_command, onManifest]
  cases exits with
  | manifest failed =>
    simp only [failed]
    exact status_ofResult ..
  | engine loaded unknown =>
    simp only [loaded, unknown]
    exact status_ofResult ..
  | docker loaded named ends =>
    simp only [loaded, named, onEngine]
    rw [job.runOn_eq, ends.status_eq json]
  | memory loaded named ends =>
    simp only [loaded, named, onEngine]
    rw [job.runOn_eq, ends.status_eq json]

/-- The exit status of `check`, `up` and `exec` is told from the first step that fails, and from the
kind of its failure: on every engine, whatever its calls answer, whichever host the exit hook goes
to, and for the program with any manifest file and any name of an engine. -/
theorem Job.run_exits (job : Job) (json : Bool) :
    (∀ (E : Type) [Engine E] (manifest : ResolvedManifest) (engine : E),
      (∀ path, (runOn (job.command path) json manifest engine).1 =
        job.outcomeOn .process json manifest engine) ∧
      ∀ (hooks : HookHost) (status : Nat),
        (job.outcomeOn hooks json manifest engine).status = status ↔
          job.Ends hooks manifest engine status) ∧
    ∀ (name path : String) (host : Host) (status : Nat),
      (run ⟨name, json, job.command path⟩ host).1.status = status ↔
        job.Exits name path host status := by
  constructor
  · intro E _ manifest engine
    exact ⟨fun path => job.runOn_eq path json manifest engine,
      fun hooks status => job.status_outcomeOn_iff json hooks manifest engine status⟩
  · intro name path host status
    constructor
    · rintro rfl
      obtain ⟨status, exits⟩ := job.exists_exits name path host
      rw [exits.status_eq json]
      exact exits
    · intro exits
      exact exits.status_eq json

end ContainerFixture.CommandLine
