import ContainerFixture.Engine.Memory
import ContainerFixture.Proofs.Container.Record
import Mathlib.Logic.Function.Basic

/-!
# What an engine's answers tell

The engine in memory knows some containers, and of each whether it runs. Whoever hears all its
answers to vital calls knows the same: `MemoryEngine.perform_told` says that one answer changes what
the listener knows as it changes what the engine knows, and that the engine says a container is not
found only if it does not know it.

A test may act on the engine between any two calls. It may make operations fail and succeed again
and choose what the engine has to show, but it makes nothing seem not to be found.
-/

namespace ContainerFixture

/-- A container as an engine knows it. -/
structure Presence where
  params : Params
  running : Bool
deriving DecidableEq

/-- The containers that an engine is known to know. -/
abbrev Knowledge := ContainerId → Option Presence

namespace Exchange

/-- What is known after an answer. -/
def learn (known : Knowledge) : Exchange → Knowledge
  | ⟨.create params, .ok creation⟩ => Function.update known creation.id (some ⟨params, false⟩)
  | ⟨.start id, .ok ()⟩ =>
    Function.update known id ((known id).map fun presence => { presence with running := true })
  | ⟨.stop id _, .ok ()⟩ =>
    Function.update known id ((known id).bind fun presence =>
      if presence.params.autoRemove then none else some { presence with running := false })
  | ⟨.remove id _, .ok ()⟩ => Function.update known id none
  | _ => known

/-- Nothing that is known is said not to be found. -/
def Honest (known : Knowledge) : Exchange → Prop
  | ⟨.start id, .error cause⟩ | ⟨.stop id _, .error cause⟩ | ⟨.remove id _, .error cause⟩ =>
    cause.isNotFound = true → known id = none
  | _ => True

theorem learn_minor {request : EngineCall} (minor : request.operation.isVital = false)
    (known : Knowledge) (answer : Except EngineError request.Answer) :
    learn known ⟨request, answer⟩ = known := by
  cases request with
  | create | start | stop | remove => cases minor
  | exec | copyTo | copyFrom | followLogs | portBindings => rfl

theorem honest_minor {request : EngineCall} (minor : request.operation.isVital = false)
    (known : Knowledge) (answer : Except EngineError request.Answer) :
    Honest known ⟨request, answer⟩ := by
  cases request with
  | create | start | stop | remove => cases minor
  | exec | copyTo | copyFrom | followLogs | portBindings => trivial

end Exchange

namespace Knowledge

/-- What is known after some answers. -/
def after (known : Knowledge) (calls : List Exchange) : Knowledge :=
  calls.foldl Exchange.learn known

/-- The answers are honest, each at its time. -/
def Consistent : Knowledge → List Exchange → Prop
  | _, [] => True
  | known, exchange :: rest => exchange.Honest known ∧ Consistent (exchange.learn known) rest

theorem after_append (known : Knowledge) (calls later : List Exchange) :
    known.after (calls ++ later) = (known.after calls).after later := List.foldl_append

theorem consistent_append {known : Knowledge} {calls later : List Exchange} :
    known.Consistent (calls ++ later) ↔
      known.Consistent calls ∧ (known.after calls).Consistent later := by
  induction calls generalizing known with
  | nil => simp [Consistent, after]
  | cons exchange rest ih => simp [Consistent, after, ih, and_assoc]

end Knowledge

namespace MemoryEngine

variable {e : MemoryEngine}

/-- The containers in the table. -/
def presence (e : MemoryEngine) : Knowledge := fun id =>
  (e.container? id).map fun container => ⟨container.params, container.running⟩

/-- No operation is scripted to find nothing. -/
def Frank (e : MemoryEngine) : Prop := ∀ entry ∈ e.failures, entry.2 ≠ .notFound

/-! ### The table -/

/-- Dropping a key from the table hides it and nothing else. -/
theorem lookup_filter_ne {table : List (ContainerId × MemoryContainer)} (id other : ContainerId) :
    (table.filter (·.1 ≠ id)).lookup other = if other = id then none else table.lookup other := by
  induction table with
  | nil => simp
  | cons entry rest ih =>
    obtain ⟨key, container⟩ := entry
    -- The first entry is dropped, or it is kept and is the one looked for or not.
    by_cases dropped : key = id
    · have front : ((key, container) :: rest).filter (·.1 ≠ id) = rest.filter (·.1 ≠ id) := by
        simp [dropped]
      rw [front, ih, List.lookup_cons]
      by_cases same : other = id
      · simp [same]
      · have differs : (other == key) = false := by simpa [dropped] using same
        rw [differs]
    · have front : ((key, container) :: rest).filter (·.1 ≠ id) =
          (key, container) :: rest.filter (·.1 ≠ id) := by
        simp [dropped]
      rw [front, List.lookup_cons, List.lookup_cons, ih]
      by_cases found : other = key
      · simp [found, dropped]
      · have differs : (other == key) = false := by simpa using found
        rw [differs]

theorem presence_erase (id : ContainerId) (e : MemoryEngine) :
    (e.erase id).presence = Function.update e.presence id none := by
  funext other
  simp only [presence, container?, erase, lookup_filter_ne, Function.update_apply]
  split <;> rfl

theorem presence_put (id : ContainerId) (container : MemoryContainer) (e : MemoryEngine) :
    (e.put id container).presence =
      Function.update e.presence id (some ⟨container.params, container.running⟩) := by
  funext other
  simp only [presence, container?, put, List.lookup_cons, lookup_filter_ne, Function.update_apply]
  by_cases same : other = id
  · simp [same]
  · have differs : (other == id) = false := by simpa using same
    simp [same, differs]

/-! ### One call -/

/-- A frank engine refuses a call or serves it. -/
theorem enter_frank (frank : e.Frank) (request : EngineCall) :
    (∃ reason, (enter request e).1 = .error (.refused reason)) ∨ (enter request e).1 = .ok () := by
  simp only [enter]
  cases scripted : e.failures.lookup request.operation with
  | none => exact Or.inr rfl
  | some failure =>
    cases failure with
    | refused reason => exact Or.inl ⟨reason, rfl⟩
    | notFound =>
      -- A scripted failure that is found stands in the script.
      obtain ⟨front, back, listed, -⟩ := List.lookup_eq_some_iff.mp scripted
      exact absurd rfl (frank (request.operation, .notFound) (by simp [listed]))

theorem find_known {id : ContainerId} {container : MemoryContainer}
    (known : e.container? id = some container) : find id e = (.ok container, e) := by
  simp [find, known]

theorem find_unknown {id : ContainerId} (unknown : e.container? id = none) :
    find id e = (.error (.notFound s!"no such container: {id.text}"), e) := by
  simp [find, unknown]

theorem find_bind {α : Type} (id : ContainerId)
    (next : MemoryContainer → Action MemoryEngine EngineError α) (e : MemoryEngine) :
    (find id >>= next) e = match e.container? id with
      | none => (.error (.notFound s!"no such container: {id.text}"), e)
      | some container => next container e := by
  cases known : e.container? id with
  | none => exact Action.bind_of_error (find_unknown known)
  | some container => exact Action.bind_of_ok (find_known known)

/-- What an answer has to be to a listener, for the engine that gives it. -/
def Told (e : MemoryEngine) (request : EngineCall)
    (served : Except EngineError request.Answer × MemoryEngine) : Prop :=
  served.2.presence = Exchange.learn e.presence ⟨request, served.1⟩ ∧
    Exchange.Honest e.presence ⟨request, served.1⟩ ∧ served.2.failures = e.failures

theorem presence_eq_none_iff {id : ContainerId} :
    e.presence id = none ↔ e.container? id = none := by
  simp [presence]

theorem create_told (params : Params) (e : MemoryEngine) :
    Told e (.create params) (create params e) :=
  ⟨presence_put _ _ _, trivial, rfl⟩

theorem start_told (id : ContainerId) (e : MemoryEngine) : Told e (.start id) (start id e) := by
  cases known : e.container? id with
  | none =>
    have failed : start id e = _ := Action.bind_of_error (find_unknown known)
    rw [failed]
    exact ⟨rfl, fun _ => presence_eq_none_iff.mpr known, rfl⟩
  | some container =>
    have done : start id e = _ := Action.bind_of_ok (find_known known)
    rw [done]
    have seen : e.presence id = some ⟨container.params, container.running⟩ := by
      simp [presence, known]
    have learned : Exchange.learn e.presence ⟨.start id, .ok ()⟩ =
        Function.update e.presence id (some ⟨container.params, true⟩) := by
      simp [Exchange.learn, seen]
    exact ⟨(presence_put _ _ _).trans learned.symm, trivial, rfl⟩

theorem stop_told (id : ContainerId) (timeout : Duration) (e : MemoryEngine) :
    Told e (.stop id timeout) (stop id e) := by
  cases known : e.container? id with
  | none =>
    have failed : stop id e = _ := Action.bind_of_error (find_unknown known)
    rw [failed]
    exact ⟨rfl, fun _ => presence_eq_none_iff.mpr known, rfl⟩
  | some container =>
    have done : stop id e = _ := Action.bind_of_ok (find_known known)
    have seen : e.presence id = some ⟨container.params, container.running⟩ := by
      simp [presence, known]
    rw [done]
    -- A container that removes itself leaves the table when it stops.
    by_cases vanishes : container.params.autoRemove = true
    · refine ⟨?_, trivial, by simp [Action.change, vanishes, erase]⟩
      simp [Action.change, vanishes, presence_erase, Exchange.learn, seen]
    · refine ⟨?_, trivial, by simp [Action.change, vanishes, put]⟩
      simp [Action.change, vanishes, presence_put, Exchange.learn, seen]

theorem remove_told (id : ContainerId) (force : Bool) (e : MemoryEngine) :
    Told e (.remove id force) (remove id force e) := by
  cases known : e.container? id with
  | none =>
    have failed : remove id force e = _ := Action.bind_of_error (find_unknown known)
    rw [failed]
    exact ⟨rfl, fun _ => presence_eq_none_iff.mpr known, rfl⟩
  | some container =>
    have done : remove id force e = _ := Action.bind_of_ok (find_known known)
    rw [done]
    -- Without force, a running container is kept, and refusing that is honest.
    by_cases kept : (container.running && !force) = true
    · rw [if_pos kept]
      exact ⟨rfl, fun missing => Bool.noConfusion missing, rfl⟩
    · rw [if_neg kept]
      exact ⟨presence_erase id e, trivial, rfl⟩

theorem find_keeps {inv : MemoryEngine → Prop} (id : ContainerId) : (find id).Keeps inv := by
  intro e before
  cases known : e.container? id with
  | none => simpa [find_unknown known] using before
  | some container => simpa [find_known known] using before

/-- The other calls look at the containers and change nothing but files of the host. -/
theorem serve_minor_keeps {inv : MemoryEngine → Prop} {request : EngineCall}
    (minor : request.operation.isVital = false)
    (blind : ∀ (e : MemoryEngine) (files : HostFiles), inv e → inv { e with files }) :
    (serve request).Keeps inv := by
  cases request with
  | create | start | stop | remove => cases minor
  | exec id env command =>
    refine (find_keeps id).bind fun container => ?_
    split
    · exact .read _
    · exact .fail _
  | copyTo id localPath remotePath =>
    refine (find_keeps id).bind fun _ => .bind (.read _) fun present => ?_
    cases present
    · exact .fail _
    · exact .pure ()
  | copyFrom id remotePath localPath =>
    refine (find_keeps id).bind fun _ => .bind (.read _) fun written => ?_
    cases written with
    | ok files => exact fun e before => blind e files before
    | error cause => exact .fail _
  | followLogs id stream => exact (find_keeps id).bind fun _ => .read _
  | portBindings id => exact (find_keeps id).bind fun container => .ofExcept _

theorem serve_minor {request : EngineCall} (minor : request.operation.isVital = false)
    (known : Knowledge) (failures : List (EngineOperation × ScriptedFailure)) :
    (serve request).Keeps fun e => e.presence = known ∧ e.failures = failures :=
  serve_minor_keeps minor fun _ _ before => before

theorem serve_told (request : EngineCall) (e : MemoryEngine) :
    Told e request (serve request e) := by
  cases important : request.operation.isVital with
  | false =>
    obtain ⟨presence, failures⟩ := serve_minor important e.presence e.failures e ⟨rfl, rfl⟩
    exact ⟨presence.trans (Exchange.learn_minor important _ _).symm,
      Exchange.honest_minor important _ _, failures⟩
  | true =>
    cases request with
    | create params => exact create_told params e
    | start id => exact start_told id e
    | stop id timeout => exact stop_told id timeout e
    | remove id force => exact remove_told id force e
    | exec | copyTo | copyFrom | followLogs | portBindings => cases important

/-- An answer of a frank engine changes what a listener knows as it changes what the engine knows,
and nothing that the engine knows is said not to be found. -/
theorem perform_told (frank : e.Frank) (request : EngineCall) :
    Told e request (perform request e) := by
  -- Entering a call changes the list of calls, and neither the table nor the script.
  have entered : (enter request e).2 = { e with called := request :: e.called } := rfl
  rcases enter_frank frank request with ⟨reason, refused⟩ | accepted
  · have failed : perform request e = _ := Action.bind_of_error (Prod.ext refused entered)
    rw [failed]
    cases request <;> refine ⟨rfl, ?_, rfl⟩ <;>
      first | trivial | exact fun missing => Bool.noConfusion missing
  · have served : perform request e = _ := Action.bind_of_ok (Prod.ext accepted entered)
    rw [served]
    exact serve_told request { e with called := request :: e.called }

end MemoryEngine

end ContainerFixture
