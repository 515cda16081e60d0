import ContainerFixture.CommandLine.Run
import ContainerFixture.Proofs.Lifecycle.Projection
import ContainerFixture.Proofs.Port.Reading
import ContainerFixture.Proofs.Provider.AtExit
import Mathlib.Data.List.Forall2
import Mathlib.Data.List.Nodup

/-!
# What a command leaves behind

A command that brings a container up tears it down again, one way or another, before the process is
over.

## Main result

`CommandLine.Errand.run_released`: on every engine, whatever its calls answer, a run of `up` or
`exec` with the end of the process after it decommissions every stage that it commissioned, once and
newest first. The stages are undone with a commissioning that fails, or by the command itself, or by
the exit hook when the command fails before it comes to that.

## Proof strategy

The command is run on an engine that is carried beside a journal, over stages that write their calls
down in it. This run and the run of the program go side by side (`Action.Alike`): they answer alike,
and their sessions are `Twins` all along.
-/

namespace ContainerFixture

/-! ### Actions side by side -/

namespace Action

variable {σ τ ε ε' α β : Type}

/-- From states that are paired the two actions answer alike, and leave states that are paired as
the answer has it. -/
def Alike (before : τ → σ → Prop) (large : Action τ ε α) (small : Action σ ε α)
    (after : Except ε α → τ → σ → Prop) : Prop :=
  ∀ t s, before t s → (large t).1 = (small s).1 ∧ after (small s).1 (large t).2 (small s).2

namespace Alike

variable {before : τ → σ → Prop} {between : Except ε α → τ → σ → Prop}
  {large : Action τ ε α} {small : Action σ ε α}

theorem pure {after : Except ε α → τ → σ → Prop} (a : α)
    (paired : ∀ t s, before t s → after (.ok a) t s) :
    Alike before (Pure.pure a : Action τ ε α) (Pure.pure a) after :=
  fun t s start => ⟨rfl, paired t s start⟩

theorem bind {after : Except ε β → τ → σ → Prop} {large' : α → Action τ ε β}
    {small' : α → Action σ ε β} (first : Alike before large small between)
    (failed : ∀ cause t s, between (.error cause) t s → after (.error cause) t s)
    (next : ∀ a, Alike (between (.ok a)) (large' a) (small' a) after) :
    Alike before (large >>= large') (small >>= small') after := by
  intro t s paired
  obtain ⟨same, paired⟩ := first t s paired
  rw [bind_apply, bind_apply]
  rcases done : small s with ⟨outcome, s⟩
  rcases done' : large t with ⟨outcome', t⟩
  rw [done, done'] at same paired
  cases outcome with
  | ok a =>
    cases outcome' with
    | ok a' =>
      cases same
      exact next a t s paired
    | error => cases same
  | error cause =>
    cases outcome' with
    | ok a' => cases same
    | error =>
      cases same
      exact ⟨rfl, failed cause t s paired⟩

theorem mapError {f : ε → ε'} {after : Except ε' α → τ → σ → Prop}
    (step : Alike before large small between)
    (restated : ∀ outcome t s, between outcome t s → after (outcome.mapError f) t s) :
    Alike before (large.mapError f) (small.mapError f) after := by
  intro t s paired
  obtain ⟨same, paired⟩ := step t s paired
  exact ⟨congrArg (Except.mapError f) same, restated _ _ _ paired⟩

theorem attempt {after : Except ε' (Except ε α) → τ → σ → Prop}
    (step : Alike before large small between)
    (answered : ∀ outcome t s, between outcome t s → after (.ok outcome) t s) :
    Alike before large.attempt small.attempt after := by
  intro t s paired
  obtain ⟨same, paired⟩ := step t s paired
  exact ⟨congrArg Except.ok same, answered _ _ _ paired⟩

end Alike

end Action

namespace CommandLine

variable {E : Type}

/-! ### Engines with a journal -/

/-- An engine, and the calls that the stages on it have made. -/
structure Journaled (E : Type) where
  engine : E
  calls : List StageCall := []

/-- The journal makes no difference to what the engine answers. -/
instance [Engine E] : Engine (Journaled E) where
  name := Engine.name E
  isAvailable j :=
    let (available, engine) := Engine.isAvailable j.engine
    (available, { j with engine })
  pathExists path j := Engine.pathExists path j.engine
  perform call := (Engine.perform call).within Journaled.engine fun engine j => { j with engine }

/-- A bench apart from the journal that it carries. -/
def parted (b : Bench (Journaled E)) : Bench E × List StageCall :=
  ({ engine := b.engine.engine, states := b.states }, b.engine.calls)

/-- A bench that carries a journal. -/
def joined (parts : Bench E × List StageCall) : Bench (Journaled E) :=
  { engine := ⟨parts.1.engine, parts.2⟩, states := parts.1.states }

/-- The stage at a place of a chain, which writes its calls down. -/
def journaled (index : Nat) (stage : ContainerStage E) : ContainerStage (Journaled E) :=
  (stage.watched index).within parted fun parts _ => joined parts

theorem journaled_extends (index : Nat) (stage : ContainerStage E) :
    (journaled index stage).Extends parted (stage.watched index) where
  name := rfl
  commission _ _ := rfl
  decommission _ _ := rfl

/-- How a command went, and what the stages did in the meantime. -/
structure Course (E : Type) where
  result : Except Failure Nat
  outcome : Outcome
  engine : E
  /-- The calls of the stages by the time the command is over. -/
  byThen : List StageCall
  /-- The calls of the stages by the time the process is over. -/
  inAll : List StageCall

/-- The course of a command that has ended, after what is left to do at the end of the process. -/
def Course.ofEnded (result : Except Failure Nat) (s : Session (Journaled E)) : Course E :=
  let world := (s.group.fire .process).2.world
  { result, outcome := Outcome.ofResult s.stdout s.stderr result, engine := world.engine.engine,
    byThen := s.group.world.engine.calls, inAll := world.engine.calls }

/-- The course of a command over stages that write their calls down. -/
def course (command : Action (Session (Journaled E)) Failure Nat) (engine : E)
    (stages : List (ContainerStage E)) : Course E :=
  let (result, s) := command (.atStart { engine } (stages.mapIdx journaled))
  .ofEnded result s

/-- What is done with a container that is up for no longer than that. -/
inductive Errand where
  | up
  | exec (arguments : List String)
deriving DecidableEq, Repr

namespace Errand

def command (path : String) : Errand → Command
  | up => .up path
  | exec arguments => .exec path arguments

def action [Engine E] (json : Bool) : Errand → Action (Session E) Failure Nat
  | up => CommandLine.up json
  | exec arguments => CommandLine.exec arguments json

def courseOn [Engine E] (errand : Errand) (json : Bool) (manifest : ResolvedManifest) (engine : E) :
    Course E :=
  match stagesOf E manifest with
  | .error cause =>
    { result := .error (.plan cause), outcome := Outcome.ofResult "" "" (.error (.plan cause)),
      engine, byThen := [], inAll := [] }
  | .ok stages => course (errand.action json) engine stages

end Errand

/-- The ways in which a run over `n` stages may go, with the calls of the stages by the time the
command is over and by the time the process is over. -/
inductive Accounted (n : Nat) : Except Failure Nat → List StageCall → List StageCall → Prop where
  /-- There is no plan, and no stage is called. -/
  | unplanned (cause : ContainerError) : Accounted n (.error (.plan cause)) [] []
  /-- A stage fails to commission, and those before it are undone with it. -/
  | unwound (cause : LifecycleError ContainerError) (k : Nat) (outcomes : List Bool)
      (inside : k < n) (complete : outcomes.length = k) {calls : List StageCall}
      (called : calls = StageCall.commissions (List.range k) ++ [.commission k false] ++
        StageCall.decommissions (List.range k).reverse outcomes) :
    Accounted n (.error (.provisioning cause)) calls calls
  /-- All stages are commissioned, and undone by the command. -/
  | finished (result : Except Failure Nat) (outcomes : List Bool) (complete : outcomes.length = n)
      {calls : List StageCall}
      (called : calls = StageCall.commissions (List.range n) ++
        StageCall.decommissions (List.range n).reverse outcomes) :
    Accounted n result calls calls
  /-- All stages are commissioned, the command fails early, and the exit hook undoes them. -/
  | atExit (failure : Failure) (outcomes : List Bool) (complete : outcomes.length = n) :
    Accounted n (.error failure) (StageCall.commissions (List.range n))
      (StageCall.commissions (List.range n) ++
        StageCall.decommissions (List.range n).reverse outcomes)

/-- What a run over `n` stages leaves behind. -/
structure Course.Released (n : Nat) (course : Course E) : Prop where
  accounted : Accounted n course.result course.byThen course.inAll
  -- Each decommissioning closes the newest commissioning that is open, and none is left open.
  nested : Nested course.inAll []
  -- So a stage is decommissioned if it was commissioned, and then once.
  once : ∀ place, course.inAll.countP (StageCall.releases place) =
    course.inAll.count (.commission place true) ∧ course.inAll.count (.commission place true) ≤ 1
  -- The command and the exit hook do not both decommission.
  either : ∃ byHook, course.inAll = course.byThen ++ byHook ∧
    (byHook = [] ∨ ∀ place, course.byThen.countP (StageCall.releases place) = 0)

/-! ### Sessions side by side -/

/-- A session on an engine with a journal and one on the engine itself that stand alike, and what
the journal says. -/
structure Twins (calls : List StageCall) (s' : Session (Journaled E)) (s : Session E) : Prop where
  world : parted s'.group.world = (s.group.world, calls)
  stdout : s'.stdout = s.stdout
  stderr : s'.stderr = s.stderr

/-- The sessions at the start of a command. -/
def Starting (stages : List (ContainerStage E)) (engine : E) (s' : Session (Journaled E))
    (s : Session E) : Prop :=
  s' = .atStart { engine } (stages.mapIdx journaled) ∧ s = .atStart engine stages

/-- All `n` stages are commissioned, and the process is going to undo them. -/
structure Up (n : Nat) (s' : Session (Journaled E)) (s : Session E) : Prop where
  twins : Twins (StageCall.commissions (List.range n)) s' s
  due : ∃ l' l, s'.group.DueAtExit l' ∧ s.group.DueAtExit l ∧ l'.Extends parted l.watched ∧
    l.indices = List.range n

/-- The process has nothing to undo. -/
structure Down (calls : List StageCall) (s' : Session (Journaled E)) (s : Session E) : Prop where
  twins : Twins calls s' s
  spent' : s'.group.process.pending = []
  spent : s.group.process.pending = []

/-- All `n` stages were commissioned and undone. -/
def Finished (n : Nat) (s' : Session (Journaled E)) (s : Session E) : Prop :=
  ∃ outcomes : List Bool, outcomes.length = n ∧ Down (StageCall.commissions (List.range n) ++
    StageCall.decommissions (List.range n).reverse outcomes) s' s

/-- How the sessions stand once the command has failed. -/
inductive Failed (n : Nat) : Failure → Session (Journaled E) → Session E → Prop where
  | unwound {cause : LifecycleError ContainerError} {k : Nat} {outcomes : List Bool}
      {s' : Session (Journaled E)} {s : Session E} (inside : k < n)
      (complete : outcomes.length = k) (down : Down (StageCall.commissions (List.range k) ++
        [.commission k false] ++ StageCall.decommissions (List.range k).reverse outcomes) s' s) :
    Failed n (.provisioning cause) s' s
  | finished {failure : Failure} {s' : Session (Journaled E)} {s : Session E}
      (finished : Finished n s' s) : Failed n failure s' s
  | left {failure : Failure} {s' : Session (Journaled E)} {s : Session E} (up : Up n s' s) :
    Failed n failure s' s

/-- How they stand after a step that ends like this if it does not fail. -/
def OrFailed (n : Nat) {α : Type} (P : Session (Journaled E) → Session E → Prop) :
    Except Failure α → Session (Journaled E) → Session E → Prop
  | .ok _ => P
  | .error failure => Failed n failure

variable {n : Nat} {s' : Session (Journaled E)} {s : Session E} {α β : Type}
  {P Q R : Session (Journaled E) → Session E → Prop}

theorem alike_bind {large : Action (Session (Journaled E)) Failure α}
    {small : Action (Session E) Failure α} {large' : α → Action (Session (Journaled E)) Failure β}
    {small' : α → Action (Session E) Failure β}
    (first : Action.Alike P large small (OrFailed n Q))
    (next : ∀ a, Action.Alike Q (large' a) (small' a) (OrFailed n R)) :
    Action.Alike P (large >>= large') (small >>= small') (OrFailed n R) :=
  first.bind (fun _ _ _ failed => failed) next

/-! ### Steps -/

/-- What sessions that have printed alike are does not depend on what they print next. -/
def Mute (P : Session (Journaled E) → Session E → Prop) : Prop :=
  ∀ s' s, P s' s → s'.stdout = s.stdout ∧ s'.stderr = s.stderr ∧
    ∀ stdout stderr, P { s' with stdout, stderr } { s with stdout, stderr }

theorem mute_up : Mute (E := E) (Up n) := by
  rintro s' s ⟨twins, due⟩
  exact ⟨twins.stdout, twins.stderr, fun _ _ => ⟨⟨twins.world, rfl, rfl⟩, due⟩⟩

theorem mute_finished : Mute (E := E) (Finished n) := by
  rintro s' s ⟨outcomes, complete, twins, spent', spent⟩
  exact ⟨twins.stdout, twins.stderr,
    fun _ _ => ⟨outcomes, complete, ⟨twins.world, rfl, rfl⟩, spent', spent⟩⟩

theorem print_alike (mute : Mute P) (text : String) :
    Action.Alike P (Session.print text) (Session.print text) (OrFailed n P) := by
  rintro ⟨group', stdout', stderr'⟩ ⟨group, stdout, stderr⟩ start
  obtain ⟨rfl, rfl, said⟩ := mute _ _ start
  exact ⟨rfl, said _ _⟩

theorem note_alike (mute : Mute P) (text : String) :
    Action.Alike P (Session.note text) (Session.note text) (OrFailed n P) := by
  rintro ⟨group', stdout', stderr'⟩ ⟨group, stdout, stderr⟩ start
  obtain ⟨rfl, rfl, said⟩ := mute _ _ start
  exact ⟨rfl, said _ _⟩

theorem pure_alike (a : α) : Action.Alike P (pure a) (pure a) (OrFailed n P) :=
  .pure a fun _ _ start => start

/-- A step that stands alike however it answers, with its failures restated. -/
theorem restated_alike {ε : Type} {f : ε → Failure} {large : Action (Session (Journaled E)) ε α}
    {small : Action (Session E) ε α} (closes : ∀ failure s' s, Q s' s → Failed n failure s' s)
    (step : Action.Alike P large small fun _ => Q) :
    Action.Alike P (large.mapError f) (small.mapError f) (OrFailed n Q) := by
  refine step.mapError fun outcome s' s after => ?_
  cases outcome with
  | ok a => exact after
  | error cause => exact closes (f cause) s' s after

theorem ofExcept_alike (closes : ∀ failure s' s, P s' s → Failed n failure s' s)
    (outcome : Except Failure α) :
    Action.Alike P (Action.ofExcept outcome) (Action.ofExcept outcome) (OrFailed n P) := by
  intro s' s start
  cases outcome with
  | ok a => exact ⟨rfl, start⟩
  | error failure => exact ⟨rfl, closes failure s' s start⟩

/-- Over both engines the same stages are decommissioned, and one of them has it written down. -/
theorem decommission_twins {l' : Lifecycle (Bench (Journaled E)) ContainerError Container}
    {l : Lifecycle (Bench E) ContainerError Container} (extended : l'.Extends parted l.watched)
    (whole : l.indices = List.range n) {world' : Bench (Journaled E)} {world : Bench E}
    {calls : List StageCall} (twins : parted world' = (world, calls)) :
    (l'.decommission world').1 = (l.decommission world).1 ∧
      ∃ outcomes : List Bool, outcomes.length = n ∧ parted (l'.decommission world').2.2 =
        ((l.decommission world).2.2,
          calls ++ StageCall.decommissions (List.range n).reverse outcomes) := by
  obtain ⟨outcome, -, worlds⟩ := extended.decommission world'
  rw [twins, Lifecycle.decommission_watched] at outcome worlds
  obtain ⟨outcomes, complete, released⟩ := l.decommissionCalls_released world
  rw [whole, List.length_range] at complete
  rw [released, whole] at worlds
  exact ⟨outcome.symm, outcomes, complete, worlds.symm⟩

theorem finishNow_alike :
    Action.Alike (Up n) Session.finishNow (Session.finishNow (E := E)) fun _ => Finished n := by
  rintro s' s ⟨twins, l', l, due', due, extended, whole⟩
  obtain ⟨g', ended', spent', world'⟩ := due'.finishNow
  obtain ⟨g, ended, spent, world⟩ := due.finishNow
  obtain ⟨outcome, outcomes, complete, worlds⟩ := decommission_twins extended whole twins.world
  rw [← world', ← world] at worlds
  simp only [Session.finishNow, ended, ended']
  exact ⟨outcome, outcomes, complete, ⟨worlds, twins.stdout, twins.stderr⟩, spent', spent⟩

theorem state_alike (c : Container) :
    Action.Alike (Up n) (Action.read fun s => s.group.world.state c)
      (Action.read fun s : Session E => s.group.world.state c) (OrFailed n (Up n)) := by
  intro s' s up
  have states : s'.group.world.states = s.group.world.states :=
    congrArg (fun parts => parts.1.states) up.twins.world
  refine ⟨?_, up⟩
  simp only [Action.read, Bench.state, states]

theorem teardown_alike :
    Action.Alike (Up n) (Session.finishNow.mapError .teardown)
      ((Session.finishNow (E := E)).mapError .teardown) (OrFailed n (Finished n)) :=
  restated_alike (fun _ _ _ => .finished) finishNow_alike

theorem mapIdx_extends (stages : List (ContainerStage E)) :
    List.Forall₂ (Stage.Extends parted) (stages.mapIdx journaled)
      (stages.mapIdx Stage.watched) := by
  rw [List.forall₂_iff_get]
  refine ⟨by simp, fun i inside _ => ?_⟩
  rw [List.length_mapIdx] at inside
  simpa using journaled_extends i stages[i]

/-- Over both engines the stages are commissioned alike, and one of them has it written down. -/
theorem commission_twins (stages : List (ContainerStage E)) (engine : E) :
    ∃ result after' after world' world calls,
      Lifecycle.commission { stages := stages.mapIdx journaled } { engine := { engine } } =
        (result, after', world') ∧
      Lifecycle.commission { stages } { engine } = (result, after, world) ∧
      after'.Extends parted after.watched ∧ parted world' = (world, calls) ∧
      Lifecycle.Acquired stages.length result after.indices calls := by
  let l : Lifecycle (Bench E) ContainerError Container := { stages }
  let l' : Lifecycle (Bench (Journaled E)) ContainerError Container :=
    { stages := stages.mapIdx journaled }
  have extended : l'.Extends parted l.watched := ⟨mapIdx_extends stages, .nil⟩
  obtain ⟨outcome, extended, worlds⟩ := extended.commission { engine := { engine } }
  have acquired := Lifecycle.commission_acquired (l := l) rfl { engine }
  have start : parted { engine := { engine } } = ({ engine }, []) := rfl
  rw [start, Lifecycle.commission_watched, List.nil_append] at outcome extended worlds
  rcases commissioned : l.commission { engine } with ⟨result, after, world⟩
  rcases commissioned' : l'.commission { engine := { engine } } with ⟨result', after', world'⟩
  rw [commissioned, commissioned'] at outcome extended worlds
  rw [commissioned] at acquired
  cases (outcome : result = result')
  exact ⟨result, after', after, world', world, _, rfl, rfl, extended, worlds.symm, acquired⟩

theorem provide_alike (stages : List (ContainerStage E)) (engine : E) :
    Action.Alike (Starting stages engine) Session.provide Session.provide
      (OrFailed stages.length (Up stages.length)) := by
  rintro s' s ⟨rfl, rfl⟩
  obtain ⟨result, after', after, world', world, calls, commissioned', commissioned, extended,
    worlds, acquired⟩ := commission_twins stages engine
  generalize placed : after.indices = places at acquired
  cases acquired with
  | whole product =>
    obtain ⟨g', given', due', rfl⟩ := ProviderGroup.provide_due commissioned'
    obtain ⟨g, given, due, rfl⟩ := ProviderGroup.provide_due commissioned
    have began' : (Session.atStart (Journaled.mk engine []) (stages.mapIdx journaled)).group.provide
        0 = (⟨0, .ok product⟩, g') := given'
    have began : (Session.atStart engine stages).group.provide 0 = (⟨0, .ok product⟩, g) := given
    have up : Up stages.length { group := g' : Session (Journaled E) } { group := g } :=
      ⟨⟨worlds, rfl, rfl⟩, after', after, due', due, extended, placed⟩
    simp only [Session.provide, began, began']
    -- an empty chain has no product, and the command fails with nothing to undo
    cases product with
    | some c => exact ⟨rfl, up⟩
    | none => exact ⟨rfl, .left up⟩
  | undone failed cause unwinding outcomes inside complete =>
    obtain ⟨g', given', spent', rfl⟩ := ProviderGroup.provide_unwound commissioned'
    obtain ⟨g, given, spent, rfl⟩ := ProviderGroup.provide_unwound commissioned
    have began' : (Session.atStart (Journaled.mk engine []) (stages.mapIdx journaled)).group.provide
        0 = (⟨0, .error (.commission failed cause unwinding)⟩, g') := given'
    have began : (Session.atStart engine stages).group.provide 0 =
        (⟨0, .error (.commission failed cause unwinding)⟩, g) := given
    simp only [Session.provide, began, began']
    exact ⟨rfl, .unwound inside complete ⟨⟨worlds, rfl, rfl⟩, spent', spent⟩⟩

section
variable [Engine E]

/-- A question to the engine does not touch the journal. -/
theorem ask_extends (request : EngineCall) (b : Bench (Journaled E)) :
    Bench.ask request b = ((Bench.ask request (parted b).1).1,
      joined ((Bench.ask request (parted b).1).2, (parted b).2)) := rfl

theorem ask_alike (request : EngineCall) :
    Action.Alike (Up n) (Session.onBench (Bench.ask request)) (Session.onBench (Bench.ask request))
      fun _ => Up (E := E) n := by
  rintro s' s ⟨twins, l', l, due', due, extended, whole⟩
  have asked := ask_extends request s'.group.world
  rw [twins.world] at asked
  simp only [Session.onBench, Action.within, asked]
  exact ⟨trivial, ⟨rfl, twins.stdout, twins.stderr⟩, l', l, due'.elsewhere _, due.elsewhere _,
    extended, whole⟩

theorem up_alike (json : Bool) (stages : List (ContainerStage E)) (engine : E) :
    Action.Alike (Starting stages engine) (up json) (up json)
      (OrFailed stages.length (Finished stages.length)) := by
  refine alike_bind (provide_alike stages engine) fun c => ?_
  refine alike_bind (restated_alike (fun _ _ _ => .left) (ask_alike _)) fun bindings => ?_
  refine alike_bind (state_alike c) fun state => ?_
  refine alike_bind (print_alike mute_up _) fun _ => ?_
  cases json with
  | true => exact alike_bind teardown_alike fun _ => pure_alike _
  | false =>
    refine alike_bind (note_alike mute_up _) fun _ => ?_
    refine alike_bind teardown_alike fun _ => ?_
    exact alike_bind (print_alike mute_finished _) fun _ => pure_alike _

theorem exec_alike (arguments : List String) (json : Bool) (stages : List (ContainerStage E))
    (engine : E) :
    Action.Alike (Starting stages engine) (exec arguments json) (exec arguments json)
      (OrFailed stages.length (Finished stages.length)) := by
  refine alike_bind (provide_alike stages engine) fun c => ?_
  refine alike_bind ((ask_alike _).attempt fun _ _ _ up => up) fun output => ?_
  refine alike_bind (finishNow_alike.attempt fun _ _ _ finished => finished) fun teardown => ?_
  refine alike_bind (ofExcept_alike (fun _ _ _ => .finished) _) fun output => ?_
  refine alike_bind (ofExcept_alike (fun _ _ _ => .finished) _) fun _ => ?_
  -- the container is down before anything is said about how the command went
  cases json with
  | true => exact alike_bind (print_alike mute_finished _) fun _ => pure_alike _
  | false =>
    refine alike_bind (print_alike mute_finished _) fun _ => ?_
    exact alike_bind (note_alike mute_finished _) fun _ => pure_alike _

/-! ### What the journal says -/

end

theorem not_mem_decommissions (place : Nat) (succeeded : Bool) (indices : List Nat)
    (outcomes : List Bool) :
    .commission place succeeded ∉ StageCall.decommissions indices outcomes := by
  induction indices generalizing outcomes with
  | nil => exact List.not_mem_nil
  | cons index rest ih =>
    cases outcomes with
    | nil => exact List.not_mem_nil
    | cons outcome outcomes => exact List.not_mem_cons_of_ne_of_not_mem nofun (ih outcomes)

/-- A pass over the first `k` stages commissions none of them twice. -/
theorem count_commission_le {place : Nat} (k : Nat) {others : List StageCall}
    (none : .commission place true ∉ others) :
    (StageCall.commissions (List.range k) ++ others).count (.commission place true) ≤ 1 := by
  have distinct : (StageCall.commissions (List.range k)).Nodup :=
    List.Nodup.map (fun i j same => (StageCall.commission.inj same).1) List.nodup_range
  rw [List.count_append, List.count_eq_zero_of_not_mem none]
  exact List.nodup_iff_count_le_one.mp distinct _

namespace Accounted

variable {result : Except Failure Nat} {byThen inAll : List StageCall}

theorem nested (accounted : Accounted n result byThen inAll) : Nested inAll [] := by
  have whole (outcomes : List Bool) (complete : outcomes.length = n) :
      Nested (StageCall.commissions (List.range n) ++
        StageCall.decommissions (List.range n).reverse outcomes) [] := by
    apply Nested.decommissions (by simpa using complete)
    simpa using Nested.nil.commissions (List.range n)
  cases accounted with
  | unplanned cause => exact .nil
  | unwound cause k outcomes inside complete called =>
    have climbed : Nested _ ((List.range k).reverse ++ []) :=
      (Nested.nil.commissions (List.range k)).refused k
    rw [called]
    exact climbed.decommissions (by simpa using complete)
  | finished _ outcomes complete called =>
    rw [called]
    exact whole outcomes complete
  | atExit failure outcomes complete => exact whole outcomes complete

theorem count_le (accounted : Accounted n result byThen inAll) (place : Nat) :
    inAll.count (.commission place true) ≤ 1 := by
  cases accounted with
  | unplanned cause => exact Nat.zero_le 1
  | unwound cause k outcomes inside complete called =>
    rw [called, List.append_assoc]
    refine count_commission_le k fun mem => ?_
    rcases List.mem_cons.mp mem with refused | undone
    · cases refused
    · exact not_mem_decommissions _ _ _ _ undone
  | finished _ outcomes complete called =>
    rw [called]
    exact count_commission_le n (not_mem_decommissions _ _ _ _)
  | atExit failure outcomes complete => exact count_commission_le n (not_mem_decommissions _ _ _ _)

theorem either (accounted : Accounted n result byThen inAll) :
    ∃ byHook, inAll = byThen ++ byHook ∧
      (byHook = [] ∨ ∀ place, byThen.countP (StageCall.releases place) = 0) := by
  cases accounted with
  | unplanned | unwound | finished => exact ⟨[], (List.append_nil _).symm, Or.inl rfl⟩
  | atExit failure outcomes complete =>
    refine ⟨_, rfl, Or.inr fun place => ?_⟩
    simp [StageCall.commissions, StageCall.releases]

theorem released {course : Course E}
    (accounted : Accounted n course.result course.byThen course.inAll) : course.Released n where
  accounted := accounted
  nested := accounted.nested
  once place := ⟨(accounted.nested.count_commission place).symm, accounted.count_le place⟩
  either := accounted.either

end Accounted

/-! ### Main result -/

/-- At the end of the process the stages that are still up are decommissioned. -/
theorem Up.ended (up : Up n s' s) : ∃ outcomes : List Bool, outcomes.length = n ∧
    parted (s'.group.fire .process).2.world = ((s.group.fire .process).2.world,
      StageCall.commissions (List.range n) ++
        StageCall.decommissions (List.range n).reverse outcomes) := by
  obtain ⟨twins, l', l, due', due, extended, whole⟩ := up
  rw [due'.fire, due.fire]
  exact (decommission_twins extended whole twins.world).2

/-- If nothing is up, nothing happens. -/
theorem Down.ended {calls : List StageCall} (down : Down calls s' s) :
    parted (s'.group.fire .process).2.world = ((s.group.fire .process).2.world, calls) := by
  rw [ProviderGroup.world_fire_spent down.spent', ProviderGroup.world_fire_spent down.spent]
  exact down.twins.world

/-- How the sessions stand when the process is over. -/
structure Closed (n : Nat) (result : Except Failure Nat) (s' : Session (Journaled E))
    (s : Session E) : Prop where
  stdout : s'.stdout = s.stdout
  stderr : s'.stderr = s.stderr
  engine : (s'.group.fire .process).2.world.engine.engine =
    (s.group.fire .process).2.world.engine
  accounted : Accounted n result s'.group.world.engine.calls
    (s'.group.fire .process).2.world.engine.calls

theorem Twins.closed {result : Except Failure Nat} {byThen inAll : List StageCall}
    (twins : Twins byThen s' s)
    (ended : parted (s'.group.fire .process).2.world = ((s.group.fire .process).2.world, inAll))
    (accounted : Accounted n result byThen inAll) : Closed n result s' s where
  stdout := twins.stdout
  stderr := twins.stderr
  engine := congrArg (fun parts => parts.1.engine) ended
  accounted := by
    have during : s'.group.world.engine.calls = byThen := congrArg Prod.snd twins.world
    have after : (s'.group.fire .process).2.world.engine.calls = inAll := congrArg Prod.snd ended
    rw [during, after]
    exact accounted

theorem Finished.closed (finished : Finished n s' s) (result : Except Failure Nat) :
    Closed n result s' s := by
  obtain ⟨outcomes, complete, down⟩ := finished
  exact down.twins.closed down.ended (.finished result outcomes complete rfl)

theorem closed_of_ended {result : Except Failure Nat}
    (ended : OrFailed n (Finished n) result s' s) : Closed n result s' s := by
  cases result with
  | ok status => exact Finished.closed ended (.ok status)
  | error failure =>
    cases ended with
    | unwound inside complete down =>
      exact down.twins.closed down.ended (.unwound _ _ _ inside complete rfl)
    | finished finished => exact finished.closed (.error failure)
    | left up =>
      obtain ⟨outcomes, complete, ended⟩ := up.ended
      exact up.twins.closed ended (.atExit failure outcomes complete)

/-- A command that goes alike over both engines goes as it does in its course. -/
theorem conclude_eq {command' : Action (Session (Journaled E)) Failure Nat}
    {command : Action (Session E) Failure Nat} {stages : List (ContainerStage E)} {engine : E}
    (alike : Action.Alike (Starting stages engine) command' command
      (OrFailed stages.length (Finished stages.length))) :
    Session.conclude command (.atStart engine stages) =
        ((course command' engine stages).outcome, (course command' engine stages).engine) ∧
      (course command' engine stages).Released stages.length := by
  obtain ⟨same, ended⟩ := alike _ _ ⟨rfl, rfl⟩
  rcases ran : command (.atStart engine stages) with ⟨result, s⟩
  rcases ran' : command' (.atStart { engine } (stages.mapIdx journaled)) with ⟨result', s'⟩
  rw [ran, ran'] at same ended
  cases (same : result' = result)
  have closed := closed_of_ended ended
  simp only [course, ran', Session.conclude, ran, Course.ofEnded]
  rw [closed.stdout, closed.stderr, closed.engine]
  exact ⟨rfl, Accounted.released closed.accounted⟩

theorem length_of_stagesOf [Engine E] {manifest : ResolvedManifest}
    {stages : List (ContainerStage E)} (planned : stagesOf E manifest = .ok stages) :
    stages.length = manifest.preStart.length + manifest.postStart.length + 2 := by
  rw [stagesOf, ResolvedManifest.plan?] at planned
  rcases read : manifest.postStart.mapM (PostStartAction.stage? (E := E)) with cause | postStart
  · rw [read] at planned
    cases planned
  · rw [read] at planned
    cases planned
    have same := (mapM_eq_ok_iff.mp read).length_eq
    simp [ContainerPlan.stages, same]
    omega

/-- On every engine, whatever its calls answer, `up` and `exec` leave no stage behind that they
commissioned: the run that writes the calls of the stages down goes as the program does, and has
decommissioned them all by the time the process is over. -/
theorem Errand.run_released [Engine E] (errand : Errand) (path : String) (json : Bool)
    (manifest : ResolvedManifest) (engine : E) :
    let course := errand.courseOn json manifest engine
    runOn (errand.command path) json manifest engine = (course.outcome, course.engine) ∧
      course.Released (manifest.preStart.length + manifest.postStart.length + 2) := by
  intro course
  rcases planned : stagesOf E manifest with cause | stages
  · have refused : runOn (errand.command path) json manifest engine =
        (Outcome.ofResult "" "" (.error (.plan cause)), engine) := by
      simp only [runOn, planned]
    simp only [course, Errand.courseOn, planned]
    exact ⟨refused, Accounted.released (.unplanned cause)⟩
  · rw [← length_of_stagesOf planned]
    have planned' : course = CommandLine.course (errand.action json) engine stages := by
      simp only [course, Errand.courseOn, planned]
    rw [planned']
    cases errand with
    | up =>
      simp only [runOn, Errand.command, planned]
      exact conclude_eq (up_alike json stages engine)
    | exec arguments =>
      simp only [runOn, Errand.command, planned]
      exact conclude_eq (exec_alike arguments json stages engine)

end CommandLine

end ContainerFixture
