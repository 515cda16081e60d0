import ContainerFixture.Engine.Memory
import ContainerFixture.Proofs.Container.Teardown

/-!
# The life of a container

Main result: `ContainerPlan.life`. The vital calls from a commissioning of a plan's chain to the end
of its unwinding, or of the decommissioning that follows, are those of a `Life`, whatever the engine
answers and whichever stage fails. The stages before the start have to hand on the container that
they are given: with one that was kept from an earlier commissioning, the calls go astray
(`ContainerPlan.life_astray_of_kept_container`).

A pass over the chain is followed phase by phase, from its end to its beginning: what is left to do
after the start, then the start, then the stages before it, then the creation. Each phase ends the
commissioning or hands over to the next one.
-/

namespace ContainerFixture

open CommittedStage (report sweep)

namespace Lifecycle

variable {σ ε π : Type}

/-- What a commissioning makes of how far its pass came. -/
def conclude (l : Lifecycle σ ε π) : Progress ε π × List (CommittedStage σ ε π) × σ →
    Except (LifecycleError ε) (Option π) × Lifecycle σ ε π × σ
  | (.ok product, stack, s) => (.ok product, { l with committed := stack }, s)
  | (.error failure, stack, s) => (.error (.commission failure.key failure.cause (sweep stack s).1),
      { l with committed := [] }, (sweep stack s).2)

/-- A commissioning and the decommissioning after it: their outcomes, and the world they leave. -/
def cycle (l : Lifecycle σ ε π) (s : σ) :
    Except (LifecycleError ε) (Option π) × Except (LifecycleError ε) Unit × σ :=
  let (outcome, l, s) := l.commission s
  let (outcome', _, s) := l.decommission s
  (outcome, outcome', s)

theorem commission_free {l : Lifecycle σ ε π} (free : l.committed = []) (s : σ) :
    l.commission s = l.conclude (climb 0 none [] l.stages s) := by
  simp only [commission, free, List.isEmpty_nil, if_true]
  rcases climb 0 none [] l.stages s with ⟨failure | product, stack, after⟩ <;> rfl

end Lifecycle

/-! ### The containers that calls are about -/

/-- The container that a call tells something about. -/
def Exchange.about? : Exchange → Option ContainerId
  | ⟨.create _, .ok creation⟩ => some creation.id
  | ⟨.create _, .error _⟩ => none
  | ⟨request, _⟩ => request.container?

/-- The containers that were created by some calls. -/
def creations (calls : List Exchange) : List Creation :=
  calls.filterMap fun
    | ⟨.create _, .ok creation⟩ => some creation
    | _ => none

theorem creations_append (calls later : List Exchange) :
    creations (calls ++ later) = creations calls ++ creations later := List.filterMap_append

theorem exists_of_mem_creations {calls : List Exchange} {creation : Creation}
    (made : creation ∈ creations calls) : ∃ params, ⟨.create params, .ok creation⟩ ∈ calls := by
  obtain ⟨⟨request, answer⟩, mem, told⟩ := List.mem_filterMap.mp made
  split at told
  · rename_i params creation' same
    cases told
    exact ⟨params, same ▸ mem⟩
  · cases told

/-- All calls are about containers that were created by them. -/
def SelfContained (calls : List Exchange) : Prop :=
  ∀ exchange ∈ calls, ∀ id, exchange.about? = some id →
    ∃ creation ∈ creations calls, creation.id = id

theorem selfContained_of_created {params : Params} {creation : Creation} {rest : List Exchange}
    (own : ∀ exchange ∈ rest, exchange.about? = some creation.id) :
    SelfContained (⟨.create params, .ok creation⟩ :: rest) := by
  intro exchange mem id told
  have same : exchange.about? = some creation.id := by
    rcases List.mem_cons.mp mem with rfl | later
    · rfl
    · exact own exchange later
  rw [same] at told
  exact ⟨creation, List.mem_cons_self, Option.some.inj told⟩

/-! ### Plans whose stages keep to themselves -/

namespace ContainerPlan

variable {E : Type} {plan : ContainerPlan (Recorded E)}

/-- The stages of a plan make no vital calls of their own, and those before the start hand on the
container that they are given. -/
structure Discreet (plan : ContainerPlan (Recorded E)) : Prop where
  preStart : ∀ stage ∈ plan.preStart, stage.Leaves Bench.vitals
  handsOn : ∀ stage ∈ plan.preStart, stage.HandsOn
  postStart : ∀ stage ∈ plan.postStart, stage.Leaves Bench.vitals

theorem Stock.discreet [Engine E] (stock : plan.Stock) : plan.Discreet where
  preStart stage mem := (stock.preStart stage mem).leaves_vitals
  handsOn stage mem := (stock.preStart stage mem).handsOn
  postStart stage mem := (stock.postStart stage mem).leaves_vitals

/-! ### Places in the chain -/

def createKey : StageKey := ⟨0, "create-container"⟩

def startKey (plan : ContainerPlan E) : StageKey := ⟨plan.preStart.length + 1, "start-container"⟩

/-- The place is that of a stage before the start. -/
def Prepares (plan : ContainerPlan E) (key : StageKey) : Prop :=
  1 ≤ key.index ∧ key.index ≤ plan.preStart.length

/-- The place is that of a stage after the start. -/
def Follows (plan : ContainerPlan E) (key : StageKey) : Prop :=
  plan.preStart.length + 2 ≤ key.index ∧
    key.index < plan.preStart.length + 2 + plan.postStart.length

/-! ### How a container is given up -/

/-- How a container that was not started is given up: the vital calls, the failures reported, and
the state of the container. -/
inductive Withdrawn (plan : ContainerPlan E) (id : ContainerId) :
    List Exchange → List (StageFailure ContainerError) → ContainerState → Prop where
  | mk (removal : Except EngineError Unit) (others : List (StageFailure ContainerError))
      (inside : ∀ failure ∈ others, plan.Prepares failure.key) :
    Withdrawn plan id [⟨.remove id true, removal⟩]
      (lapses createKey [⟨.remove id true, removal⟩] ++ others)
      (if settles removal = true then .removed else .created)

/-- How a started container is given up: the vital calls, the failures reported, and the state of
the container. -/
inductive TakenDown (plan : ContainerPlan E) (id : ContainerId) :
    List Exchange → List (StageFailure ContainerError) → ContainerState → Prop where
  | mk (stop removal : Except EngineError Unit) (early late : List (StageFailure ContainerError))
      (before : ∀ failure ∈ early, plan.Prepares failure.key)
      (behind : ∀ failure ∈ late, plan.Follows failure.key) :
    TakenDown plan id (plan.params.stopping id stop ++ plan.params.removing id removal)
      (lapses createKey (plan.params.removing id removal) ++ early ++
        lapses plan.startKey (plan.params.stopping id stop) ++ late)
      (plan.params.finalState (plan.params.stoppedState stop) removal)

/-- How a commissioning fails: the error, the vital calls with those of the unwinding, and the state
of the container if there was one. -/
inductive Broken (plan : ContainerPlan E) :
    LifecycleError ContainerError → List Exchange → List ContainerState → Prop where
  | invalid (cause : ParamsError) (refused : plan.params.validate = .error cause) :
    Broken plan (.commission createKey (.params cause) []) [] []
  | uncreated (cause : EngineError) (valid : plan.params.validate = .ok ()) :
    Broken plan (.commission createKey (.engine .create cause) [])
      [⟨.create plan.params, .error cause⟩] []
  | unprepared (creation : Creation) (key : StageKey) (cause : ContainerError)
      (calls : List Exchange) (unwinding : List (StageFailure ContainerError))
      (state : ContainerState) (valid : plan.params.validate = .ok ()) (inside : plan.Prepares key)
      (withdrawn : plan.Withdrawn creation.id calls unwinding state) :
    Broken plan (.commission key cause unwinding)
      (⟨.create plan.params, .ok creation⟩ :: calls) [state]
  | unstarted (creation : Creation) (cause : EngineError) (calls : List Exchange)
      (unwinding : List (StageFailure ContainerError)) (state : ContainerState)
      (valid : plan.params.validate = .ok ())
      (withdrawn : plan.Withdrawn creation.id calls unwinding state) :
    Broken plan (.commission plan.startKey (.engine .start cause) unwinding)
      (⟨.create plan.params, .ok creation⟩ :: ⟨.start creation.id, .error cause⟩ :: calls) [state]
  | unready (creation : Creation) (key : StageKey) (cause : ContainerError)
      (calls : List Exchange) (unwinding : List (StageFailure ContainerError))
      (state : ContainerState) (valid : plan.params.validate = .ok ()) (inside : plan.Follows key)
      (taken : plan.TakenDown creation.id calls unwinding state) :
    Broken plan (.commission key cause unwinding)
      (⟨.create plan.params, .ok creation⟩ :: ⟨.start creation.id, .ok ()⟩ :: calls) [state]

/-- The outcomes of a commissioning and of the decommissioning after it, with the vital calls of
both. -/
inductive Life (plan : ContainerPlan E) :
    Except (LifecycleError ContainerError) (Option Container) →
      Except (LifecycleError ContainerError) Unit → List Exchange → Prop where
  | broken (error : LifecycleError ContainerError) (calls : List Exchange)
      (states : List ContainerState) (broken : plan.Broken error calls states) :
    Life plan (.error error) (.ok ()) calls
  | served (creation : Creation) (product : Option Container) (calls : List Exchange)
      (failures : List (StageFailure ContainerError)) (state : ContainerState)
      (valid : plan.params.validate = .ok ())
      (taken : plan.TakenDown creation.id calls failures state) :
    Life plan (.ok product)
      (if failures.isEmpty then .ok () else .error (.decommission failures))
      (⟨.create plan.params, .ok creation⟩ :: ⟨.start creation.id, .ok ()⟩ :: calls)

section lives

variable {F : Type} {plan : ContainerPlan F} {id : ContainerId} {calls : List Exchange}
  {failures : List (StageFailure ContainerError)} {state : ContainerState}
  {error : LifecycleError ContainerError} {states : List ContainerState}

theorem Withdrawn.about (withdrawn : plan.Withdrawn id calls failures state) :
    ∀ exchange ∈ calls, exchange.about? = some id := by
  obtain ⟨removal, others, -⟩ := withdrawn
  intro exchange mem
  rw [List.mem_singleton.mp mem]
  rfl

theorem TakenDown.about (taken : plan.TakenDown id calls failures state) :
    ∀ exchange ∈ calls, exchange.about? = some id := by
  obtain ⟨stop, removal, early, late, -, -⟩ := taken
  unfold Params.stopping Params.removing
  intro exchange mem
  rcases List.mem_append.mp mem with stopping | removing
  · split at stopping
    · rw [List.mem_singleton.mp stopping]
      rfl
    · cases stopping
  · split at removing
    · rw [List.mem_singleton.mp removing]
      rfl
    · cases removing

theorem TakenDown.selfContained {creation : Creation}
    (taken : plan.TakenDown creation.id calls failures state) : SelfContained
      (⟨.create plan.params, .ok creation⟩ :: ⟨.start creation.id, .ok ()⟩ :: calls) := by
  refine selfContained_of_created fun exchange mem => ?_
  rcases List.mem_cons.mp mem with rfl | later
  · rfl
  · exact taken.about exchange later

theorem Broken.selfContained (broken : plan.Broken error calls states) : SelfContained calls := by
  cases broken with
  | invalid => exact fun exchange mem => absurd mem List.not_mem_nil
  | uncreated cause =>
    intro exchange mem id told
    rw [List.mem_singleton.mp mem] at told
    cases told
  | unprepared creation key cause calls unwinding state valid inside withdrawn =>
    exact selfContained_of_created withdrawn.about
  | unstarted creation cause calls unwinding state valid withdrawn =>
    refine selfContained_of_created fun exchange mem => ?_
    rcases List.mem_cons.mp mem with rfl | later
    · rfl
    · exact withdrawn.about exchange later
  | unready creation key cause calls unwinding state valid inside taken =>
    exact taken.selfContained

theorem Life.selfContained {up : Except (LifecycleError ContainerError) (Option Container)}
    {down : Except (LifecycleError ContainerError) Unit} (life : plan.Life up down calls) :
    SelfContained calls := by
  cases life with
  | broken error calls states broken => exact broken.selfContained
  | served creation product calls failures state valid taken => exact taken.selfContained

end lives

variable [Engine E]

/-! ### Stacks -/

/-- The stack of a container that was created and not started. -/
inductive Prepared (plan : ContainerPlan (Recorded E)) (c : Container) :
    List (CommittedStage (Bench (Recorded E)) ContainerError Container) → Prop where
  | mk (before : List (CommittedStage (Bench (Recorded E)) ContainerError Container))
      (leaves : ∀ committed ∈ before, committed.stage.Leaves Bench.vitals)
      (places : ∀ committed ∈ before, plan.Prepares committed.key) :
    Prepared plan c (before ++ [⟨0, ContainerStage.create plan.params, c⟩])

/-- The stack of a container that was started. -/
inductive Holds (plan : ContainerPlan (Recorded E)) (c : Container) :
    List (CommittedStage (Bench (Recorded E)) ContainerError Container) → Prop where
  | mk (prepared behind : List (CommittedStage (Bench (Recorded E)) ContainerError Container))
      (below : plan.Prepared c prepared)
      (leaves : ∀ committed ∈ behind, committed.stage.Leaves Bench.vitals)
      (places : ∀ committed ∈ behind, plan.Follows committed.key) :
    Holds plan c (behind ++ ⟨plan.preStart.length + 1, ContainerStage.start, c⟩ :: prepared)

variable {b : Bench (Recorded E)} {older : List ContainerState} {creation : Creation}
  {stack : List (CommittedStage (Bench (Recorded E)) ContainerError Container)}

omit [Engine E] in
/-- Stages that leave everything vital alone are undone without anything vital changing. -/
theorem sweep_vitals (leaves : ∀ committed ∈ stack, committed.stage.Leaves Bench.vitals)
    (b : Bench (Recorded E)) : (sweep stack b).2.vital = b.vital ∧
      (sweep stack b).2.states = b.states :=
  Bench.vitals_eq_iff.mp (CommittedStage.sweep_keeps (fun c mem => leaves c mem b.vitals) rfl)

/-- Undoing the stages before the start, and then the creation. -/
theorem Prepared.sweep {c : Container} (prepared : plan.Prepared c stack) (b : Bench (Recorded E)) :
    ∃ others reached, (∀ failure ∈ others, plan.Prepares failure.key) ∧
      reached.vital = b.vital ∧ reached.states = b.states ∧
      CommittedStage.sweep stack b =
        (report createKey (ContainerStage.removeContainer c reached).1 ++ others,
          (ContainerStage.removeContainer c reached).2) := by
  obtain ⟨before, leaves, places⟩ := prepared
  obtain ⟨vital, states⟩ := sweep_vitals leaves b
  refine ⟨(CommittedStage.sweep before b).1, (CommittedStage.sweep before b).2,
    fun failure mem => ?_, vital, states, ?_⟩
  · obtain ⟨committed, inside, same⟩ := CommittedStage.mem_stack_of_mem_sweep mem
    rw [same]
    exact places committed inside
  · rw [CommittedStage.sweep_append, CommittedStage.sweep_cons]
    rfl

theorem Prepared.withdrawn
    (prepared : plan.Prepared (.ofCreation older.length plan.params creation) stack)
    (now : b.states = older ++ [.created]) : ∃ calls state,
      plan.Withdrawn creation.id calls (CommittedStage.sweep stack b).1 state ∧
      (CommittedStage.sweep stack b).2.vital = b.vital ++ calls ∧
      (CommittedStage.sweep stack b).2.states = older ++ [state] := by
  obtain ⟨others, reached, inside, vital, states, swept⟩ := prepared.sweep b
  obtain ⟨answer, outcome, after, removed, vital', states', reported⟩ :=
    ContainerStage.removeContainer_created plan.params creation (states.trans now)
  rw [swept, removed, reported]
  refine ⟨_, _, .mk answer others inside, ?_, states'⟩
  rw [vital', vital]

/-- Undoing the stages after the start, then the start, and then what was before it. -/
theorem Holds.takenDown (held : plan.Holds (.ofCreation older.length plan.params creation) stack)
    (now : b.states = older ++ [.started]) : ∃ calls state,
      plan.TakenDown creation.id calls (CommittedStage.sweep stack b).1 state ∧
      (CommittedStage.sweep stack b).2.vital = b.vital ++ calls ∧
      (CommittedStage.sweep stack b).2.states = older ++ [state] := by
  obtain ⟨prepared, behind, below, leaves, places⟩ := held
  -- One fact for each part of the stack, from its top: the stages after the start change nothing
  -- vital, the start stops the container, and below it the creation removes it.
  obtain ⟨vital, states⟩ := sweep_vitals leaves b
  obtain ⟨stop, outcome, between, stopped, vital', states', reported⟩ :=
    ContainerStage.stopContainer_vital plan.params creation (states.trans now)
  obtain ⟨early, reached, before, vital₂, states₂, swept⟩ := below.sweep between
  obtain ⟨removal, outcome', after, removed, vital₃, states₃, reported'⟩ :=
    ContainerStage.removeContainer_started plan.params creation
      (plan.params.stoppedState_cases stop) (states₂.trans states')
  have undone : (ContainerStage.start : ContainerStage (Recorded E)).decommission
      (.ofCreation older.length plan.params creation) (CommittedStage.sweep behind b).2 =
        (outcome, between) := stopped
  -- Failures are listed by place, so those of the creation come first.
  have whole : CommittedStage.sweep (behind ++ ⟨plan.preStart.length + 1, ContainerStage.start,
        .ofCreation older.length plan.params creation⟩ :: prepared) b =
      (lapses createKey (plan.params.removing creation.id removal) ++ early ++
        lapses plan.startKey (plan.params.stopping creation.id stop) ++
        (CommittedStage.sweep behind b).1, after) := by
    rw [CommittedStage.sweep_append, CommittedStage.sweep_cons, undone]
    dsimp only
    rw [swept, removed, reported, reported']
    rfl
  rw [whole]
  refine ⟨_, _, .mk stop removal early _ before fun failure mem => ?_, ?_, states₃⟩
  · obtain ⟨committed, inside, same⟩ := CommittedStage.mem_stack_of_mem_sweep mem
    rw [same]
    exact places committed inside
  · rw [vital₃, vital₂, vital', vital, List.append_assoc]

theorem Holds.taken {c : Container}
    {stack : List (CommittedStage (Bench (Recorded E)) ContainerError Container)}
    (held : plan.Holds c stack) : stack ≠ [] := by
  cases held
  simp

/-! ### Commissioning, phase by phase -/

/-- How a commissioning of a plan's chain goes: it fails and leaves nothing committed, or a started
container is held. -/
inductive Commissioned (plan : ContainerPlan (Recorded E))
    (l : Lifecycle (Bench (Recorded E)) ContainerError Container) (b : Bench (Recorded E)) :
    Except (LifecycleError ContainerError) (Option Container) ×
      Lifecycle (Bench (Recorded E)) ContainerError Container × Bench (Recorded E) → Prop where
  | broken (error : LifecycleError ContainerError) (calls : List Exchange)
      (states : List ContainerState) (after : Bench (Recorded E))
      (broken : plan.Broken error calls states) (vital : after.vital = b.vital ++ calls)
      (states : after.states = b.states ++ states) :
    Commissioned plan l b (.error error, { l with committed := [] }, after)
  | begun (creation : Creation) (product : Option Container)
      (stack : List (CommittedStage (Bench (Recorded E)) ContainerError Container))
      (after : Bench (Recorded E)) (valid : plan.params.validate = .ok ())
      (held : plan.Holds (.ofCreation b.states.length plan.params creation) stack)
      (vital : after.vital = b.vital ++
        [⟨.create plan.params, .ok creation⟩, ⟨.start creation.id, .ok ()⟩])
      (states : after.states = b.states ++ [.started]) :
    Commissioned plan l b (.ok product, { l with committed := stack }, after)

variable {l : Lifecycle (Bench (Recorded E)) ContainerError Container}

theorem climb_postStart (discreet : plan.Discreet) (valid : plan.params.validate = .ok ())
    {before : Bench (Recorded E)}
    (prepared : plan.Prepared (.ofCreation before.states.length plan.params creation) stack)
    (vital : b.vital = before.vital ++
      [⟨.create plan.params, .ok creation⟩, ⟨.start creation.id, .ok ()⟩])
    (states : b.states = before.states ++ [.started]) (input : Option Container) :
    plan.Commissioned l before (l.conclude (Lifecycle.climb (plan.preStart.length + 2) input
      (⟨plan.preStart.length + 1, ContainerStage.start,
        .ofCreation before.states.length plan.params creation⟩ :: stack) plan.postStart b)) := by
  let base := ⟨plan.preStart.length + 1, ContainerStage.start,
    .ofCreation before.states.length plan.params creation⟩ :: stack
  -- Wherever the pass stops, the container is started and its stack is on the way to being held.
  have kept := Bench.vitals_eq_iff.mp (Lifecycle.climb_keeps
    (fun stage mem => discreet.postStart stage mem b.vitals) (plan.preStart.length + 2) input base
    rfl)
  obtain ⟨behind, grown, placed⟩ :=
    Lifecycle.climb_stack (plan.preStart.length + 2) input base plan.postStart b
  have held : plan.Holds (.ofCreation before.states.length plan.params creation)
      (behind ++ base) := by
    refine .mk stack behind prepared (fun c mem => discreet.postStart _ (placed c mem).1) ?_
    exact fun c mem => (placed c mem).2
  rcases pass : Lifecycle.climb (plan.preStart.length + 2) input base plan.postStart b with
    ⟨failure | product, reached, after⟩ <;> rw [pass] at kept grown <;> obtain rfl := grown
  · -- The stage that failed is not on the stack; those below it are undone.
    obtain ⟨calls, state, taken, vital', states'⟩ := held.takenDown (kept.2.trans states)
    refine .broken _ _ [state] _ (.unready creation failure.key failure.cause calls _ state valid
      (Lifecycle.climb_failure pass) taken) ?_ states'
    rw [vital', kept.1, vital]
    simp
  · exact .begun creation product _ after valid held (kept.1.trans vital) (kept.2.trans states)

theorem climb_start (discreet : plan.Discreet) (valid : plan.params.validate = .ok ())
    {before : Bench (Recorded E)}
    (prepared : plan.Prepared (.ofCreation before.states.length plan.params creation) stack)
    (vital : b.vital = before.vital ++ [⟨.create plan.params, .ok creation⟩])
    (states : b.states = before.states ++ [.created]) :
    plan.Commissioned l before (l.conclude (Lifecycle.climb (plan.preStart.length + 1)
      (some (.ofCreation before.states.length plan.params creation)) stack
      (ContainerStage.start :: plan.postStart) b)) := by
  obtain ⟨answer, outcome, after, started, vital', told⟩ :=
    ContainerStage.start_vital (c := .ofCreation before.states.length plan.params creation) rfl
      states
  have calls : after.vital = before.vital ++
      [⟨.create plan.params, .ok creation⟩, ⟨.start creation.id, answer⟩] := by
    rw [vital', vital, List.append_assoc]
    rfl
  rw [Lifecycle.climb, started]
  cases answer with
  | error cause =>
    -- A start that failed is not undone: the container was never started.
    obtain ⟨rfl, states'⟩ := told
    obtain ⟨rest, state, withdrawn, vital₂, states₂⟩ := prepared.withdrawn states'
    refine .broken _ _ [state] _ (.unstarted creation cause rest _ state valid withdrawn) ?_ states₂
    rw [vital₂, calls]
    simp
  | ok _ =>
    obtain ⟨rfl, states'⟩ := told
    exact climb_postStart discreet valid prepared calls states' _

theorem climb_preStart (discreet : plan.Discreet) (valid : plan.params.validate = .ok ())
    {before : Bench (Recorded E)}
    (vital : b.vital = before.vital ++ [⟨.create plan.params, .ok creation⟩])
    (states : b.states = before.states ++ [.created]) :
    let c := Container.ofCreation before.states.length plan.params creation
    plan.Commissioned l before (l.conclude (Lifecycle.climb 1 (some c)
      [⟨0, ContainerStage.create plan.params, c⟩]
      (plan.preStart ++ ContainerStage.start :: plan.postStart) b)) := by
  intro c
  let base : List (CommittedStage (Bench (Recorded E)) ContainerError Container) :=
    [⟨0, ContainerStage.create plan.params, c⟩]
  have kept := Bench.vitals_eq_iff.mp (Lifecycle.climb_keeps
    (fun stage mem => discreet.preStart stage mem b.vitals) 1 (some c) base rfl)
  obtain ⟨added, grown, placed⟩ := Lifecycle.climb_stack 1 (some c) base plan.preStart b
  have prepared : plan.Prepared c (added ++ base) := by
    refine .mk added (fun committed mem => discreet.preStart _ (placed committed mem).1) ?_
    intro committed mem
    have place := (placed committed mem).2
    exact ⟨place.1, show committed.index ≤ _ by omega⟩
  rw [Lifecycle.climb_append]
  rcases pass : Lifecycle.climb 1 (some c) base plan.preStart b with
    ⟨failure | product, reached, after⟩ <;> rw [pass] at kept grown <;> obtain rfl := grown
  · have place := Lifecycle.climb_failure pass
    obtain ⟨calls, state, withdrawn, vital', states'⟩ := prepared.withdrawn (kept.2.trans states)
    refine .broken _ _ [state] _ (.unprepared creation failure.key failure.cause calls _ state valid
      ⟨place.1, by omega⟩ withdrawn) ?_ states'
    rw [vital', kept.1, vital]
    simp
  · -- The container that is started is the one that was created.
    obtain rfl := Lifecycle.climb_handsOn discreet.handsOn pass
    rw [Nat.add_comm 1]
    exact climb_start discreet valid prepared (kept.1.trans vital) (kept.2.trans states)

/-- Every commissioning of a plan's chain with nothing committed goes as `Commissioned` says. -/
theorem commission_effect (discreet : plan.Discreet) (chain : l.stages = plan.stages)
    (free : l.committed = []) (b : Bench (Recorded E)) :
    plan.Commissioned l b (l.commission b) := by
  -- The first stage of the chain is the one that creates the container.
  rw [Lifecycle.commission_free free, chain, stages, List.cons_append, Lifecycle.climb]
  cases checked : plan.params.validate with
  | error cause =>
    have refused : (ContainerStage.create plan.params).commission none b =
      (.error (.params cause), b) := ContainerStage.createContainer_invalid checked b
    rw [refused]
    exact .broken _ [] [] b (.invalid cause checked) (by simp) (by simp)
  | ok _ =>
    obtain ⟨answer, outcome, after, created, vital, told⟩ :=
      ContainerStage.createContainer_vital checked b
    have called : (ContainerStage.create plan.params).commission none b = (outcome, after) :=
      created
    rw [called]
    cases answer with
    | error cause =>
      obtain ⟨rfl, states⟩ := told
      exact .broken _ _ [] after (.uncreated cause checked) vital (by simpa using states)
    | ok creation =>
      obtain ⟨rfl, states⟩ := told
      exact climb_preStart discreet checked vital states

theorem decommission_effect
    (held : plan.Holds (.ofCreation older.length plan.params creation) l.committed)
    (now : b.states = older ++ [.started]) : ∃ calls failures state,
      plan.TakenDown creation.id calls failures state ∧
      (l.decommission b).1 =
        (if failures.isEmpty then .ok () else .error (.decommission failures)) ∧
      (l.decommission b).2.2.vital = b.vital ++ calls ∧
      (l.decommission b).2.2.states = older ++ [state] := by
  obtain ⟨calls, state, taken, vital, states⟩ := held.takenDown now
  exact ⟨calls, _, state, taken, rfl, vital, states⟩

/-! ### Main result -/

/-- The vital calls of a container's life: those of one commissioning and its unwinding, or of one
commissioning and the decommissioning after it, for any engine and any stages that make no vital
calls of their own. -/
theorem life (discreet : plan.Discreet) (chain : l.stages = plan.stages) (free : l.committed = [])
    (b : Bench (Recorded E)) :
    ∃ calls, (l.cycle b).2.2.vital = b.vital ++ calls ∧
      plan.Life (l.cycle b).1 (l.cycle b).2.1 calls := by
  have effect := commission_effect discreet chain free b
  unfold Lifecycle.cycle
  generalize l.commission b = commissioned at effect ⊢
  cases effect with
  | broken error calls states after broken vital =>
    -- Nothing is committed any more, so the decommissioning finds nothing to undo.
    exact ⟨calls, vital, .broken error calls states broken⟩
  | begun creation product stack after valid held vital states =>
    obtain ⟨calls, failures, state, taken, outcome, vital', -⟩ :=
      decommission_effect (l := { l with committed := stack }) held states
    refine ⟨⟨.create plan.params, .ok creation⟩ :: ⟨.start creation.id, .ok ()⟩ :: calls, ?_, ?_⟩
    · exact vital'.trans (by rw [vital, List.append_assoc]; rfl)
    · have served := Life.served creation product calls failures state valid taken
      rwa [← outcome] at served

/-- A container that does not remove itself and whose stop is refused. -/
theorem life_of_refused_stop :
    let plan : ContainerPlan (Recorded MemoryEngine) :=
      { params := { Params.ofImage ⟨none, none, "redis", some (.tag "7")⟩ with
          disableAutoRemove := true }
        postStart := [ContainerStage.exec ["redis-cli", "ping"] .empty] }
    let l : Lifecycle (Bench (Recorded MemoryEngine)) ContainerError Container :=
      { stages := plan.stages }
    let b : Bench (Recorded MemoryEngine) :=
      { engine := { engine := MemoryEngine.fail .stop (.refused "wedged") {} } }
    plan.Discreet ∧ l.stages = plan.stages ∧ l.committed = [] ∧ ∃ calls,
      calls.map (·.request.operation) = [.create, .start, .stop, .remove] ∧
      plan.Life (l.cycle b).1 (l.cycle b).2.1 calls := by
  intro plan l b
  have discreet : plan.Discreet := by
    refine Stock.discreet ⟨fun stage mem => absurd mem List.not_mem_nil, fun stage mem => ?_⟩
    rw [List.mem_singleton.mp mem]
    exact .exec _ _
  obtain ⟨calls, vital, life⟩ := life discreet (rfl : l.stages = plan.stages) rfl b
  have operations : (l.cycle b).2.2.vital.map (·.request.operation) =
      [.create, .start, .stop, .remove] := by decide +kernel
  rw [vital] at operations
  exact ⟨discreet, rfl, rfl, calls, operations, life⟩

/-- A stage hands on the container of the commissioning before, which is gone. The start is asked for
that one, and the new container is removed without ever being started. -/
theorem life_astray_of_kept_container :
    let params := Params.ofImage ⟨none, none, "redis", some (.tag "7")⟩
    let older := MemoryEngine.idFor 1 params.image
    let newer := MemoryEngine.idFor 2 params.image
    let plan : ContainerPlan (Recorded MemoryEngine) :=
      { params, preStart := [.handing (.ofCreation 0 params ⟨older, []⟩)] }
    let l : Lifecycle (Bench (Recorded MemoryEngine)) ContainerError Container :=
      { stages := plan.stages }
    let b := (l.cycle { engine := { engine := {} } }).2.2
    let told (b : Bench (Recorded MemoryEngine)) :=
      b.vital.map fun exchange => (exchange.request.operation, exchange.about?)
    (∀ stage ∈ plan.preStart ++ plan.postStart, stage.Leaves Bench.vitals) ∧
      told b = [(.create, some older), (.start, some older), (.stop, some older)] ∧
      told (l.cycle b).2.2 =
        told b ++ [(.create, some newer), (.start, some older), (.remove, some newer)] ∧
      ¬ ∃ calls, (l.cycle b).2.2.vital = b.vital ++ calls ∧
        plan.Life (l.cycle b).1 (l.cycle b).2.1 calls := by
  intro params older newer plan l b told
  have again : told (l.cycle b).2.2 =
      told b ++ [(.create, some newer), (.start, some older), (.remove, some newer)] := by
    decide +kernel
  refine ⟨?_, by decide +kernel, again, ?_⟩
  · intro stage mem
    rw [List.mem_singleton.mp mem]
    exact ContainerStage.handing_leaves _ _
  · rintro ⟨calls, vital, life⟩
    have made : calls.map (fun exchange => (exchange.request.operation, exchange.about?)) =
        [(.create, some newer), (.start, some older), (.remove, some newer)] := by
      simp only [told, vital, List.map_append] at again
      exact List.append_cancel_left again
    -- The start is asked for a container that none of these calls created.
    have started : (EngineOperation.start, some older) ∈
        calls.map fun exchange => (exchange.request.operation, exchange.about?) := by simp [made]
    obtain ⟨start, mem, about⟩ := List.mem_map.mp started
    obtain ⟨creation, created, same⟩ :=
      life.selfContained start mem older (congrArg Prod.snd about)
    obtain ⟨params', asked⟩ := exists_of_mem_creations created
    have listed : (EngineOperation.create, some older) ∈
        calls.map fun exchange => (exchange.request.operation, exchange.about?) :=
      List.mem_map.mpr ⟨_, asked, by rw [← same]; rfl⟩
    rw [made] at listed
    exact absurd listed (by decide +kernel)

end ContainerPlan

end ContainerFixture
