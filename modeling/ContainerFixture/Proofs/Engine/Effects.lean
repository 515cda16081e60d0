import ContainerFixture.Proofs.Engine.Faithful
import Mathlib.Data.List.Nodup

/-!
# What a call of the engine in memory does

Main result: `perform_framed`. Whatever was done to a new engine before, a call that fails is only
put on the list of calls, and one that succeeds changes no container but its own.

`Effect` says all that a call can do that succeeds. A call does that or it fails, and then it has
changed nothing (`perform_effective`); what a call leaves alone is read off its effect.

Starting a container gives out ports of the host between two looks at the table. The engine looks
once, which comes to the same (`start_eq`): giving out ports leaves the table alone, so the second
look finds what the first one found, and a start that fails has given out none.
-/

namespace ContainerFixture

namespace MemoryEngine

variable {e : MemoryEngine}

/-! ### The table -/

theorem container?_put (id other : ContainerId) (container : MemoryContainer) (e : MemoryEngine) :
    (e.put id container).container? other =
      if other = id then some container else e.container? other := by
  simp only [container?, put, List.lookup_cons, lookup_filter_ne]
  by_cases same : other = id
  · simp [same]
  · have differs : (other == id) = false := by simpa using same
    simp [same, differs]

theorem container?_erase (id other : ContainerId) (e : MemoryEngine) :
    (e.erase id).container? other = if other = id then none else e.container? other := by
  simp only [container?, erase, lookup_filter_ne]

/-! ### Starting -/

/-- Chooses the ports of the host for some port specs and moves the counter on. -/
def giveOut (ports : List PortSpec) : Action MemoryEngine EngineError (List String) := fun e =>
  (.ok (assignPorts ports e.nextPort).1, { e with nextPort := (assignPorts ports e.nextPort).2 })

theorem giveOut_bind {α : Type} (ports : List PortSpec)
    (next : List String → Action MemoryEngine EngineError α) : (giveOut ports >>= next) e =
      next (assignPorts ports e.nextPort).1
        { e with nextPort := (assignPorts ports e.nextPort).2 } := rfl

/-- The counter is not part of the table. -/
theorem container?_counted (id : ContainerId) (nextPort : UInt16) (e : MemoryEngine) :
    ({ e with nextPort } : MemoryEngine).container? id = e.container? id := rfl

theorem start_eq (id : ContainerId) : start id = (do
    let container ← find id
    let entries ← giveOut container.params.ports
    let container ← find id
    Action.change fun e =>
      e.put id { container with running := true, ports := ", ".intercalate entries }) := by
  funext e
  rw [start, find_bind, find_bind]
  cases known : e.container? id with
  | none => rfl
  | some container =>
    dsimp only
    rw [giveOut_bind, find_bind, container?_counted, known]
    rfl

/-! ### Effects -/

/-- What a call that succeeds finds, answers and leaves. -/
inductive Effect (e : MemoryEngine) :
    (request : EngineCall) → request.Answer → MemoryEngine → Prop where
  | create (params : Params) :
    Effect e (.create params) ⟨idFor (e.created + 1) params.image, e.warnings⟩
      ({ e with created := e.created + 1 }.put (idFor (e.created + 1) params.image) { params })
  | start {id : ContainerId} {container : MemoryContainer} {entries : List String} {next : UInt16}
      (known : e.container? id = some container)
      (given : assignPorts container.params.ports e.nextPort = (entries, next)) :
    Effect e (.start id) ()
      ({ e with nextPort := next }.put id
        { container with running := true, ports := ", ".intercalate entries })
  -- A container that removes itself is gone once it is stopped.
  | stop {id : ContainerId} {timeout : Duration} {container : MemoryContainer}
      (known : e.container? id = some container) (stays : container.params.autoRemove = false) :
    Effect e (.stop id timeout) () (e.put id { container with running := false })
  | vanish {id : ContainerId} {timeout : Duration} {container : MemoryContainer}
      (known : e.container? id = some container) (leaves : container.params.autoRemove = true) :
    Effect e (.stop id timeout) () (e.erase id)
  | remove {id : ContainerId} {force : Bool} {container : MemoryContainer}
      (known : e.container? id = some container)
      (allowed : force = true ∨ container.running = false) :
    Effect e (.remove id force) () (e.erase id)
  | exec {id : ContainerId} {env : Text.TextMap} {command : List String}
      {container : MemoryContainer} (known : e.container? id = some container)
      (running : container.running = true) (output : ExecOutput) :
    Effect e (.exec id env command) output e
  | copyTo {id : ContainerId} {localPath remotePath : String} {container : MemoryContainer}
      (known : e.container? id = some container)
      (present : e.files.pathExists localPath = true) :
    Effect e (.copyTo id localPath remotePath) () e
  | copyFrom {id : ContainerId} {localPath remotePath : String} {container : MemoryContainer}
      (known : e.container? id = some container) (files : HostFiles) :
    Effect e (.copyFrom id remotePath localPath) () { e with files }
  | followLogs {id : ContainerId} {container : MemoryContainer}
      (known : e.container? id = some container) (stream : LogStream) :
    Effect e (.followLogs id stream) (e.feed stream) e
  | portBindings {id : ContainerId} {container : MemoryContainer} {bindings : List PortBinding}
      (known : e.container? id = some container)
      (read : parsePortList container.ports = .ok bindings) :
    Effect e (.portBindings id) bindings e

/-- A step of the engine fails and changes nothing, or does what the call is there for. -/
def Effective (e : MemoryEngine) (request : EngineCall)
    (outcome : Except EngineError request.Answer × MemoryEngine) : Prop :=
  (∃ cause, outcome = (.error cause, e)) ∨
    ∃ answer after, outcome = (.ok answer, after) ∧ Effect e request answer after

theorem effective_fail (request : EngineCall) (cause : EngineError) (e : MemoryEngine) :
    Effective e request (.error cause, e) :=
  Or.inl ⟨cause, rfl⟩

theorem Effect.effective {request : EngineCall} {answer : request.Answer} {after : MemoryEngine}
    (effect : Effect e request answer after) : Effective e request (.ok answer, after) :=
  Or.inr ⟨answer, after, rfl, effect⟩

/-- A call that starts by looking a container up fails if there is none. -/
theorem find_effective {request : EngineCall} {id : ContainerId}
    {next : MemoryContainer → Action MemoryEngine EngineError request.Answer}
    (found : ∀ container, e.container? id = some container →
      Effective e request (next container e)) :
    Effective e request ((find id >>= next) e) := by
  rw [find_bind]
  cases known : e.container? id with
  | none => exact effective_fail request _ e
  | some container => exact found container known

theorem read_bind {α β : Type} (view : MemoryEngine → α)
    (next : α → Action MemoryEngine EngineError β) :
    (Action.read view >>= next) e = next (view e) e := rfl

theorem start_effective (id : ContainerId) (e : MemoryEngine) :
    Effective e (.start id) (start id e) := by
  rw [start_eq]
  apply find_effective
  intro container known
  -- The second look finds the container too, now that the counter has moved on.
  rw [giveOut_bind, find_bind, container?_counted, known]
  exact (Effect.start known rfl).effective

theorem stop_effective (id : ContainerId) (timeout : Duration) (e : MemoryEngine) :
    Effective e (.stop id timeout) (stop id e) := by
  apply find_effective
  intro container known
  -- Whether the container goes when it is stopped was settled when it was created.
  rw [Action.change]
  split
  · next leaves => exact (Effect.vanish known leaves).effective
  · next stays => exact (Effect.stop known (by simpa using stays)).effective

theorem remove_effective (id : ContainerId) (force : Bool) (e : MemoryEngine) :
    Effective e (.remove id force) (remove id force e) := by
  apply find_effective
  intro container known
  split
  · exact effective_fail _ _ e
  · next allowed =>
    have allowed : force = true ∨ container.running = false := by
      cases force <;> simp_all
    exact (Effect.remove known allowed).effective

theorem serve_effective (request : EngineCall) (e : MemoryEngine) :
    Effective e request (serve request e) := by
  cases request with
  | create params => exact (Effect.create params).effective
  | start id => exact start_effective id e
  | stop id timeout => exact stop_effective id timeout e
  | remove id force => exact remove_effective id force e
  | exec id env command =>
    apply find_effective
    intro container known
    split
    · next running => exact (Effect.exec known running _).effective
    · exact effective_fail _ _ e
  | copyTo id localPath remotePath =>
    apply find_effective
    intro container known
    rw [read_bind]
    cases present : e.files.pathExists localPath with
    | true => exact (Effect.copyTo known present).effective
    | false => exact effective_fail _ _ e
  | copyFrom id remotePath localPath =>
    apply find_effective
    intro container known
    rw [read_bind]
    -- A file that cannot be written leaves the files of the host as they were.
    cases e.files.write localPath s!"mock-copy:{remotePath}\n" with
    | ok files => exact (Effect.copyFrom known files).effective
    | error cause => exact effective_fail _ _ e
  | followLogs id stream =>
    apply find_effective
    intro container known
    exact (Effect.followLogs known stream).effective
  | portBindings id =>
    apply find_effective
    intro container known
    cases read : parsePortList container.ports with
    | ok bindings => exact (Effect.portBindings known read).effective
    | error cause => exact effective_fail _ _ e

/-- A call is entered, and then fails or takes effect. -/
theorem perform_effective (request : EngineCall) (e : MemoryEngine) :
    Effective (e.entered request) request (perform request e) := by
  by_cases unscripted : e.Unscripted request.operation
  · rw [perform_unscripted unscripted]
    exact serve_effective request (e.entered request)
  · obtain ⟨cause, failed⟩ := perform_scripted unscripted
    rw [failed]
    exact effective_fail request cause _

end MemoryEngine

/-! ### What a call leaves alone -/

/-- The container that a call created, or else the one that it was addressed to. -/
def EngineCall.subject : (request : EngineCall) → request.Answer → ContainerId
  | .create _, creation => creation.id
  | .start id, _ | .stop id _, _ | .remove id _, _ | .exec id _ _, _ | .copyTo id _ _, _
  | .copyFrom id _ _, _ | .followLogs id _, _ | .portBindings id, _ => id

/-- A call that failed left only its record, and one that succeeded only its own changes. -/
structure Framed (e : MemoryEngine) (request : EngineCall)
    (outcome : Except EngineError request.Answer × MemoryEngine) : Prop where
  calls : outcome.2.calls = e.calls ++ [request]
  failed : ∀ cause, outcome.1 = .error cause → outcome.2 = { e with called := outcome.2.called }
  -- Of the containers, one may differ, which was there before unless this call created it.
  others : ∀ answer, outcome.1 = .ok answer → ∀ id ≠ request.subject answer,
    outcome.2.container? id = e.container? id
  subject : ∀ answer, outcome.1 = .ok answer →
    ((e.container? (request.subject answer)).isSome ↔ request.operation ≠ .create)
  minor : request.operation.isVital = false → outcome.2.table = e.table
  created : outcome.2.created =
    if request.operation = .create ∧ outcome.1.isOk then e.created + 1 else e.created
  nextPort : request.operation ≠ .start → outcome.2.nextPort = e.nextPort
  -- What a test has scripted stays as it is.
  failures : outcome.2.failures = e.failures
  warnings : outcome.2.warnings = e.warnings
  execOutput : outcome.2.execOutput = e.execOutput
  logs : outcome.2.logs = e.logs
  holdsLogs : outcome.2.holdsLogs = e.holdsLogs
  files : request.operation ≠ .copyFrom → outcome.2.files = e.files

namespace MemoryEngine

variable {e : MemoryEngine}

theorem calls_entered (request : EngineCall) (e : MemoryEngine) :
    (e.entered request).calls = e.calls ++ [request] := by
  simp only [calls, entered, List.reverse_cons]

theorem framed_error (request : EngineCall) (cause : EngineError) (e : MemoryEngine) :
    Framed e request (.error cause, e.entered request) where
  calls := calls_entered request e
  failed _ _ := rfl
  others _ succeeded := by cases succeeded
  subject _ succeeded := by cases succeeded
  minor _ := rfl
  created := by simp [entered, Except.isOk, Except.toBool]
  nextPort _ := rfl
  failures := rfl
  warnings := rfl
  execOutput := rfl
  logs := rfl
  holdsLogs := rfl
  files _ := rfl

/-- Whatever succeeds stays within its frame, as long as no container is created that was known. -/
theorem Effect.framed {request : EngineCall} {answer : request.Answer} {after : MemoryEngine}
    (effect : Effect (e.entered request) request answer after)
    (newborn : request.operation = .create → e.container? (request.subject answer) = none) :
    Framed e request (.ok answer, after) := by
  have subject : (e.container? (request.subject answer)).isSome ↔ request.operation ≠ .create := by
    cases effect with
    | create params => simp [newborn rfl, EngineCall.operation]
    | start known | stop known | vanish known | remove known | exec known | copyTo known
    | copyFrom known | followLogs known | portBindings known =>
      exact iff_of_true (Option.isSome_iff_exists.mpr ⟨_, known⟩) EngineOperation.noConfusion
  have others (id : ContainerId) (other : id ≠ request.subject answer) :
      after.container? id = e.container? id := by
    cases effect with
    | create | start | stop =>
      rw [container?_put]
      exact if_neg other
    | vanish | remove =>
      rw [container?_erase]
      exact if_neg other
    | exec | copyTo | copyFrom | followLogs | portBindings => rfl
  constructor
  case calls =>
    rw [← calls_entered request e]
    cases effect <;> rfl
  case failed =>
    intro cause failed
    cases failed
  case subject =>
    intro _ succeeded
    cases succeeded
    exact subject
  case others =>
    intro _ succeeded
    cases succeeded
    exact others
  case minor =>
    intro minor
    cases effect with
    | create | start | stop | vanish | remove => cases minor
    | exec | copyTo | copyFrom | followLogs | portBindings => rfl
  case nextPort =>
    intro other
    cases effect with
    | start => exact absurd rfl other
    | create | stop | vanish | remove | exec | copyTo | copyFrom | followLogs | portBindings => rfl
  case files =>
    intro other
    cases effect with
    | copyFrom => exact absurd rfl other
    | create | start | stop | vanish | remove | exec | copyTo | followLogs | portBindings => rfl
  all_goals cases effect <;> rfl

/-- A container that has just been created was not known, as it would have been given the identifier
of another one. -/
theorem unknown_of_created {deeds : List Deed} {params : Params} {creation : Creation}
    (free : CollisionFree (play (deeds ++ [.call (.create params)])).exchanges)
    (succeeded : (perform (.create params) (play deeds).engine).1 = .ok creation) :
    (play deeds).engine.container? creation.id = none := by
  have exchanges : (play (deeds ++ [.call (.create params)])).exchanges =
      (play deeds).exchanges ++ [⟨.create params, .ok creation⟩] := by
    rw [play, List.foldl_append, ← succeeded]
    rfl
  have distinct := (play_kept (deeds ++ [.call (.create params)])).distinct free
  rw [exchanges, issued_concat] at distinct
  obtain ⟨earlier, -, apart⟩ := List.nodup_append.mp distinct
  have unborn : creation.id ∉ issued (play deeds).exchanges := by
    intro issued
    exact apart _ issued _ (List.mem_singleton_self _) rfl
  -- What was never given out is not known.
  have unknown := (tallies_after earlier).unborn _ unborn
  rw [← (play_kept deeds).learned] at unknown
  exact presence_eq_none_iff.mp unknown

end MemoryEngine

open MemoryEngine

/-- Whatever was done to a new engine, its next call is put on record once. If it fails, nothing
else happens. If it succeeds, all containers but one are as they were. -/
theorem perform_framed (deeds : List Deed) (request : EngineCall)
    (free : CollisionFree (play (deeds ++ [.call request])).exchanges) :
    Framed (play deeds).engine request (perform request (play deeds).engine) := by
  rcases perform_effective request (play deeds).engine with
    ⟨cause, failed⟩ | ⟨answer, after, succeeded, effect⟩
  · rw [failed]
    exact framed_error request cause _
  · rw [succeeded]
    apply effect.framed
    intro creation
    cases request <;> cases creation
    exact unknown_of_created free (congrArg Prod.fst succeeded)

theorem collisionFree_of_nodup {history : List Exchange}
    (nodup : ((hashed history).map Blake3.textDigest).Nodup) : CollisionFree history := by
  intro text mem text' mem' same
  exact List.inj_on_of_nodup_map nodup mem mem' same

/-- A second container of the same image, while the first one runs. -/
theorem perform_framed_of_second :
    let params : Params := .ofImage ⟨none, none, "redis", some (.tag "7")⟩
    let deeds : List Deed := [.call (.create params), .call (.start (idFor 1 params.image))]
    CollisionFree (play (deeds ++ [.call (.create params)])).exchanges ∧
      (perform (.create params) (play deeds).engine).1.isOk ∧
      Framed (play deeds).engine (.create params)
        (perform (.create params) (play deeds).engine) := by
  intro params deeds
  have free : CollisionFree (play (deeds ++ [.call (.create params)])).exchanges := by
    apply collisionFree_of_nodup
    decide +kernel
  exact ⟨free, by decide +kernel, perform_framed deeds (.create params) free⟩

end ContainerFixture
