import ContainerFixture.Proofs.Engine.Presence

/-!
# An engine under test

A test acts on the engine in memory between its calls. It may make operations fail, clear all
failures and choose what the engine has to show, at any time and as often as it likes; it does not
touch the containers, and it makes nothing seem not to be found.

Whoever hears the vital calls of such an engine and their answers knows what the engine knows, from
the beginning of any run over a plan with ready-made stages to its end (`Recorded.Traced`).
-/

namespace ContainerFixture

/-- What a test does to an engine in memory. -/
inductive Cue where
  | refuse (operation : EngineOperation) (reason : String)
  | clear
  | warn (warning : String)
  | answer (output : ExecOutput)
  | log (stream : LogStream) (line : String)
  | holdLogs (held : Bool)
  | hostFiles (files : HostFiles)

def Cue.apply : Cue → MemoryEngine → MemoryEngine
  | .refuse operation reason, e => e.fail operation (.refused reason)
  | .clear, e => e.clearFailures
  | .warn warning, e => e.warnOnCreate warning
  | .answer output, e => { e with execOutput := some output }
  | .log stream line, e => e.pushLog stream line
  | .holdLogs held, e => { e with holdsLogs := held }
  | .hostFiles files, e => { e with files }

/-- An engine in memory with a test that gives it some cues before each of its calls. -/
structure Prompted where
  engine : MemoryEngine := {}
  script : Nat → List Cue := fun _ => []
  /-- How many calls there were. -/
  moment : Nat := 0

namespace Prompted

/-- The engine after the cues for the next call. -/
def cued (p : Prompted) : MemoryEngine :=
  (p.script p.moment).foldl (fun e cue => cue.apply e) p.engine

instance : Engine Prompted where
  name := Engine.name MemoryEngine
  isAvailable p := (true, p)
  pathExists path p := Engine.pathExists path p.engine
  perform request p :=
    let (answer, engine) := Engine.perform request p.cued
    (answer, { p with engine, moment := p.moment + 1 })

/-- Cues leave the containers alone and script nothing to be not found. -/
theorem cued_frank {p : Prompted} (frank : p.engine.Frank) :
    p.cued.Frank ∧ p.cued.presence = p.engine.presence := by
  unfold cued
  -- Any list of cues on any frank engine: by induction on the list.
  generalize p.script p.moment = cues
  generalize p.engine = e at frank ⊢
  induction cues generalizing e with
  | nil => exact ⟨frank, rfl⟩
  | cons cue rest ih =>
    have once : (cue.apply e).Frank ∧ (cue.apply e).presence = e.presence := by
      cases cue with
      | refuse operation reason =>
        refine ⟨fun entry mem => ?_, rfl⟩
        rcases List.mem_cons.mp mem with rfl | old
        · exact ScriptedFailure.noConfusion
        · exact frank entry old
      | clear => exact ⟨fun entry mem => absurd mem List.not_mem_nil, rfl⟩
      | warn | answer | log | holdLogs | hostFiles => exact ⟨frank, rfl⟩
    obtain ⟨still, same⟩ := ih _ once.1
    exact ⟨still, same.trans once.2⟩

/-- An answer under test tells a listener what it changes. -/
theorem perform_told {p : Prompted} (frank : p.engine.Frank) (request : EngineCall) :
    let (answer, after) := Engine.perform request p
    after.engine.Frank ∧
      after.engine.presence = Exchange.learn p.engine.presence ⟨request, answer⟩ ∧
      Exchange.Honest p.engine.presence ⟨request, answer⟩ := by
  obtain ⟨still, same⟩ := cued_frank frank
  obtain ⟨learned, honest, failures⟩ := MemoryEngine.perform_told still request
  rw [same] at learned honest
  refine ⟨fun entry mem => ?_, learned, honest⟩
  exact still entry (failures ▸ mem)

end Prompted

/-- The invariant of a record: what is known at the opening and from the vital calls since is what
the engine knows. -/
structure Recorded.Traced (opening : Knowledge) (r : Recorded Prompted) : Prop where
  frank : r.engine.engine.Frank
  consistent : opening.Consistent r.vital
  presence : r.engine.engine.presence = opening.after r.vital

/-- The step of `Recorded.Traced`: one more call, vital or not, and its answer. -/
theorem Recorded.perform_traced (opening : Knowledge) (request : EngineCall) :
    (Engine.perform request : Action (Recorded Prompted) EngineError _).Keeps
      (Recorded.Traced opening) := by
  intro r traced
  obtain ⟨frank, learned, honest⟩ := Prompted.perform_told traced.frank request
  have vital := Recorded.perform_vital request r
  rw [traced.presence] at learned honest
  cases important : request.operation.isVital with
  | false =>
    -- The call is not on the vital record, and it changes nothing that is known.
    rw [important, if_neg Bool.false_ne_true, List.append_nil] at vital
    refine ⟨frank, vital ▸ traced.consistent, ?_⟩
    rw [vital]
    exact learned.trans (Exchange.learn_minor important _ _)
  | true =>
    rw [important, if_pos rfl] at vital
    refine ⟨frank, ?_, ?_⟩
    · rw [vital, Knowledge.consistent_append]
      exact ⟨traced.consistent, honest, trivial⟩
    · rw [vital, Knowledge.after_append]
      exact learned

end ContainerFixture
