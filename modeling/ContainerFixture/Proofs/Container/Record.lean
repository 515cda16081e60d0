import ContainerFixture.Container.Plan
import ContainerFixture.Proofs.Lifecycle.Invariants

/-!
# Engines on record

An engine that remembers what it was asked and what it answered, and otherwise is the engine that it
stands for. What is proved of the calls of a container's stages is proved of such a record.

Only the calls that create, start, stop and remove containers are vital to them. The stages that
work on a container (`ContainerStage.IsStock`) make no vital call and move no container to another
state, whatever the engine answers.
-/

namespace ContainerFixture

open Text

/-- A call of an engine and what the engine answered. -/
structure Exchange where
  request : EngineCall
  answer : Except EngineError request.Answer

/-- Whether the operation decides over the life of a container. -/
def EngineOperation.isVital : EngineOperation → Bool
  | create | start | stop | remove => true
  | exec | copyTo | copyFrom | followLogs | portBindings => false

def Exchange.isVital (exchange : Exchange) : Bool := exchange.request.operation.isVital

/-- An engine and all that was exchanged with it, oldest first. It answers as the engine does. -/
structure Recorded (E : Type) where
  engine : E
  exchanges : List Exchange := []

namespace Recorded

variable {E : Type}

/-- The vital calls so far and their answers, oldest first. -/
def vital (r : Recorded E) : List Exchange := r.exchanges.filter Exchange.isVital

instance [Engine E] : Engine (Recorded E) where
  name := Engine.name E
  isAvailable r :=
    let (answer, engine) := Engine.isAvailable r.engine
    (answer, { r with engine })
  pathExists path r := Engine.pathExists path r.engine
  perform request r :=
    let (answer, engine) := Engine.perform request r.engine
    (answer, { engine, exchanges := r.exchanges ++ [⟨request, answer⟩] })

variable [Engine E]

theorem perform_vital (request : EngineCall) (r : Recorded E) :
    (Engine.perform request r).2.vital = r.vital ++
      if request.operation.isVital then [⟨request, (Engine.perform request r).1⟩] else [] := by
  have entered : (Engine.perform request r).2.exchanges =
      r.exchanges ++ [⟨request, (Engine.perform request r).1⟩] := rfl
  rw [vital, entered, List.filter_append, List.filter_cons, List.filter_nil]
  rfl

end Recorded

namespace Bench

variable {E : Type}

def vital (b : Bench (Recorded E)) : List Exchange := b.engine.vital

/-- The vital calls that were made from a bench, and the states of its containers. -/
def vitals (b : Bench (Recorded E)) : List Exchange × List ContainerState := (b.vital, b.states)

theorem vitals_eq_iff {b : Bench (Recorded E)} {calls : List Exchange}
    {states : List ContainerState} :
    b.vitals = (calls, states) ↔ b.vital = calls ∧ b.states = states := by
  rw [vitals, Prod.mk.injEq]

variable [Engine E]

/-- A vital call is entered with its answer, and moves no container to another state. -/
theorem call_vital (request : EngineCall) (important : request.operation.isVital = true)
    (b : Bench (Recorded E)) : ∃ answer after, call request b = (answer, after) ∧
      after.vital = b.vital ++ [⟨request, answer⟩] ∧ after.states = b.states := by
  refine ⟨(call request b).1, (call request b).2, rfl, ?_, rfl⟩
  have entered := Recorded.perform_vital request b.engine
  rw [important, if_pos rfl] at entered
  exact entered

theorem call_keeps_vitals {request : EngineCall} (minor : request.operation.isVital = false)
    (v : List Exchange × List ContainerState) :
    (call request : Action (Bench (Recorded E)) EngineError _).Keeps fun b => b.vitals = v := by
  intro b before
  have entered := Recorded.perform_vital request b.engine
  rw [minor, if_neg Bool.false_ne_true, List.append_nil] at entered
  have same : (call request b).2.vitals = b.vitals := Prod.ext entered rfl
  rw [same]
  exact before

theorem ask_keeps {E : Type} [Engine E] {inv : Bench E → Prop} {request : EngineCall}
    (keeps : (call request : Action (Bench E) EngineError _).Keeps inv) :
    (ask request : Action (Bench E) ContainerError _).Keeps inv :=
  keeps.mapError _

end Bench

namespace ContainerStage

variable {E : Type} {inv : Bench E → Prop}

theorem onContainer_keeps {name : String}
    {commission decommission : Container → Action (Bench E) ContainerError Unit}
    (up : ∀ c, (commission c).Keeps inv) (down : ∀ c, (decommission c).Keeps inv) :
    (onContainer name commission decommission).Keeps inv where
  commission
    | none => .fail _
    | some c => (up c).bind fun _ => .pure c
  decommission := down

theorem onContainer_handsOn (name : String)
    (commission decommission : Container → Action (Bench E) ContainerError Unit) :
    (onContainer name commission decommission).HandsOn := by
  intro given b product after commissioned
  simp only [onContainer, Action.bind_apply, Action.pure_apply] at commissioned
  rcases performed : commission given b with ⟨cause | _, reached⟩ <;>
    rw [performed] at commissioned <;> cases commissioned
  rfl

/-- A stage that hands on a container of its own, such as one that it kept from an earlier
commissioning, whichever it is given. -/
def handing (kept : Container) : ContainerStage E where
  name := "hand-on"
  commission _ := pure kept
  decommission _ := pure ()

theorem handing_leaves {ν : Type} (kept : Container) (view : Bench E → ν) :
    (handing kept).Leaves view :=
  fun _ => ⟨fun _ => .pure kept, fun _ => .pure ()⟩

theorem unlessGone_keeps {step : Action (Bench E) EngineError Unit} (operation : EngineOperation)
    (keeps : step.Keeps inv) :
    ((Bench.unlessGone step).mapError (ContainerError.engine operation)).Keeps inv :=
  .mapError _ (.recover _ keeps)

theorem transition_keeps_engine {kept : E → Prop} (c : Container) (target : ContainerState) :
    (Bench.transition c target).Keeps fun b : Bench E => kept b.engine := by
  intro b before
  unfold Bench.transition
  split <;> exact before

variable [Engine E]

/-- The stages on a container that come ready-made. -/
inductive IsStock : ContainerStage E → Prop where
  | copyInto (localPath remotePath : String) : IsStock (copyInto localPath remotePath)
  | copyOut (remotePath localPath : String) : IsStock (copyOut remotePath localPath)
  | exec (command : List String) (env : TextMap) : IsStock (exec command env)
  | awaitLog (source : String) (pattern : Pattern) (stream : LogStream) (timeout : Duration) :
    IsStock (awaitLog source pattern stream timeout)

/-- What the calls that are not vital keep is kept by every ready-made stage. -/
theorem IsStock.keeps {stage : ContainerStage E} (stock : IsStock stage)
    (minor : ∀ request : EngineCall, request.operation.isVital = false →
      (Bench.call request : Action (Bench E) EngineError _).Keeps inv) : stage.Keeps inv := by
  cases stock with
  | copyInto localPath remotePath =>
    refine onContainer_keeps (fun c => ?_) fun _ => .pure ()
    refine .bind (.read _) fun present => ?_
    -- Without a file to copy the engine is not asked.
    cases present
    · exact .fail _
    · exact Bench.ask_keeps (minor (.copyTo c.id localPath remotePath) rfl)
  | copyOut remotePath localPath =>
    refine onContainer_keeps (fun c => ?_) fun _ => .pure ()
    exact Bench.ask_keeps (minor (.copyFrom c.id remotePath localPath) rfl)
  | exec command env =>
    refine onContainer_keeps (fun c => ?_) fun _ => .pure ()
    refine .bind (Bench.ask_keeps (minor (.exec c.id env command) rfl)) fun output => ?_
    split
    · exact .pure ()
    · exact .fail _
  | awaitLog source pattern stream timeout =>
    refine onContainer_keeps (fun c => ?_) fun _ => .pure ()
    refine .bind (Bench.ask_keeps (minor (.followLogs c.id stream) rfl)) fun feed => ?_
    -- However the watch over the log ends, it makes no further call.
    split
    · exact .pure ()
    · exact .fail _
    · exact .fail _

theorem IsStock.handsOn {stage : ContainerStage E} (stock : IsStock stage) : stage.HandsOn := by
  cases stock <;> exact onContainer_handsOn _ _ _

/-! ### What the engine keeps -/

/-- What every call of the engine keeps of it is kept when the call is made from a bench; and so by
the stages that create and start the container, which only make calls and move states. -/
theorem call_keeps_engine {kept : E → Prop}
    (keeps : ∀ request : EngineCall, (Engine.perform request : Action E EngineError _).Keeps kept)
    (request : EngineCall) :
    (Bench.call request : Action (Bench E) EngineError _).Keeps fun b => kept b.engine :=
  fun b before => keeps request b.engine before

theorem create_keeps_engine {kept : E → Prop}
    (keeps : ∀ request : EngineCall, (Engine.perform request : Action E EngineError _).Keeps kept)
    (params : Params) : (create params : ContainerStage E).Keeps fun b => kept b.engine where
  commission _ := by
    refine .bind (.ofExcept _) fun _ => .bind (Bench.ask_keeps (call_keeps_engine keeps _)) ?_
    exact fun _ _ before => before
  decommission c := by
    refine .bind (.read _) fun leftToEngine => ?_
    split
    · exact transition_keeps_engine c .removed
    · refine .bind (unlessGone_keeps .remove (call_keeps_engine keeps _)) fun _ => ?_
      exact transition_keeps_engine c .removed

theorem start_keeps_engine {kept : E → Prop}
    (keeps : ∀ request : EngineCall, (Engine.perform request : Action E EngineError _).Keeps kept) :
    (start : ContainerStage E).Keeps fun b => kept b.engine := by
  refine onContainer_keeps (fun c => ?_) fun c => ?_
  · refine .bind (Bench.ask_keeps (call_keeps_engine keeps _)) fun _ => ?_
    exact transition_keeps_engine c .started
  · unfold stopContainer
    split
    · refine .bind (unlessGone_keeps .stop (call_keeps_engine keeps _)) fun _ => ?_
      exact transition_keeps_engine c .stopped
    · exact .pure ()

theorem IsStock.leaves_vitals {stage : ContainerStage (Recorded E)} (stock : IsStock stage) :
    stage.Leaves Bench.vitals :=
  fun v => stock.keeps fun _ minor => Bench.call_keeps_vitals minor v

end ContainerStage

/-- All stages of a plan but the two that make the container are ready-made. -/
structure ContainerPlan.Stock {E : Type} [Engine E] (plan : ContainerPlan E) : Prop where
  preStart : ∀ stage ∈ plan.preStart, ContainerStage.IsStock stage
  postStart : ∀ stage ∈ plan.postStart, ContainerStage.IsStock stage

/-- A plan with ready-made stages keeps of its engine what every call keeps. -/
theorem ContainerPlan.Stock.keeps_engine {E : Type} [Engine E] {plan : ContainerPlan E}
    (stock : plan.Stock) {kept : E → Prop}
    (keeps : ∀ request : EngineCall, (Engine.perform request : Action E EngineError _).Keeps kept) :
    ∀ stage ∈ plan.stages, stage.Keeps fun b => kept b.engine := by
  have minor : ∀ request : EngineCall, request.operation.isVital = false →
      (Bench.call request : Action (Bench E) EngineError _).Keeps fun b => kept b.engine := by
    intro request _
    exact ContainerStage.call_keeps_engine keeps request
  intro stage mem
  rcases List.mem_append.mp mem with front | back
  · rcases List.mem_cons.mp front with rfl | before
    · exact ContainerStage.create_keeps_engine keeps plan.params
    · exact (stock.preStart stage before).keeps minor
  · rcases List.mem_cons.mp back with rfl | behind
    · exact ContainerStage.start_keeps_engine keeps
    · exact (stock.postStart stage behind).keeps minor

end ContainerFixture
