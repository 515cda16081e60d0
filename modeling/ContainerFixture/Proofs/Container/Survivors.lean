import ContainerFixture.Proofs.Container.Fate
import ContainerFixture.Proofs.Engine.Prompted

/-!
# Containers that survive their teardown

Main result: `ContainerPlan.survivors_accounted`. Over an engine under test, and after any calls on
the lifecycle of a plan, whatever container the next commissioning creates is gone at the end of its
unwinding, or of the first decommissioning, unless it was left to the engine on purpose or a call
that should have stopped or removed it failed and the failure is reported.
-/

namespace ContainerFixture

namespace Bench

variable (b : Bench (Recorded Prompted))

def presence : Knowledge := b.engine.engine.engine.presence

/-- The bench of an engine under test before any call. -/
def opening (p : Prompted) : Bench (Recorded Prompted) := { engine := { engine := p } }

end Bench

/-- A container is gone; or it removes itself, was started and is not to be stopped; or it was
reported that it could not be stopped or removed. -/
def AccountedFor (params : Params) (id : ContainerId) (calls : List Exchange)
    (failures : List (StageFailure ContainerError)) (b : Bench (Recorded Prompted)) : Prop :=
  b.presence id = none ∨
  (params.autoRemove = true ∧ params.commandType = .exitingImmediately ∧
    ⟨.start id, .ok ()⟩ ∈ calls) ∨
  Accounts failures

theorem Fate.accountedFor {params : Params} {id : ContainerId} {calls : List Exchange}
    {failures : List (StageFailure ContainerError)} {state : ContainerState}
    {b : Bench (Recorded Prompted)}
    (fate : Fate params id calls failures state (b.presence id)) :
    AccountedFor params id calls failures b := by
  generalize seen : b.presence id = presence at fate
  cases fate with
  | gone => exact Or.inl seen
  | leftToEngine removesItself exits started =>
    exact Or.inr (Or.inl ⟨removesItself, exits, started⟩)
  | created accounted | started accounted | stopped accounted =>
    exact Or.inr (Or.inr accounted)
  | abandoned accounted => exact Or.inr (Or.inr accounted)

namespace Lifecycle

variable {σ ε π : Type}

theorem run_replicate_taken {l : Lifecycle σ ε π} (taken : l.committed ≠ []) (s : σ) (n : Nat) :
    l.run s (List.replicate n .commission) = (l, s) := by
  induction n with
  | zero => rfl
  | succ n ih =>
    rw [List.replicate_succ', run_concat, ih]
    simp [perform, commission_taken taken]

end Lifecycle

namespace ContainerPlan

variable {plan : ContainerPlan (Recorded Prompted)} {p : Prompted}

/-- At the end of every run, what is known from the record is what the engine knows. -/
theorem Stock.traced (stock : plan.Stock) (frank : p.engine.Frank) (calls : List LifecycleCall) :
    (Lifecycle.run { stages := plan.stages } (Bench.opening p) calls).1.Upholds
      (fun b => b.engine.Traced p.engine.presence)
      (Lifecycle.run { stages := plan.stages } (Bench.opening p) calls).2 := by
  have opening : Recorded.Traced p.engine.presence { engine := p } := ⟨frank, trivial, rfl⟩
  have start : Lifecycle.Upholds (fun b : Bench (Recorded Prompted) =>
      b.engine.Traced p.engine.presence) { stages := plan.stages } (Bench.opening p) :=
    ⟨stock.keeps_engine (Recorded.perform_traced p.engine.presence), by simp, opening⟩
  exact start.run calls

/-- What the record adds tells what the engine knows at the end, from what it knew before. -/
theorem traced_after {known : Knowledge} {b after : Bench (Recorded Prompted)}
    {made : List Exchange} (before : b.engine.Traced known) (traced : after.engine.Traced known)
    (vital : after.vital = b.vital ++ made) :
    b.presence.Consistent made ∧ after.presence = b.presence.after made := by
  have same : after.engine.vital = b.engine.vital ++ made := vital
  have consistent := traced.consistent
  have presence := traced.presence
  rw [same, Knowledge.consistent_append, ← before.presence] at consistent
  rw [same, Knowledge.after_append, ← before.presence] at presence
  exact ⟨consistent.2, presence⟩

/-- The decommissioning after a commissioning that succeeded accounts for the container. -/
theorem decommission_accountedFor {known : Knowledge} {b between : Bench (Recorded Prompted)}
    {l : Lifecycle (Bench (Recorded Prompted)) ContainerError Container} {creation : Creation}
    (before : b.engine.Traced known) (upheld : l.Upholds (fun b => b.engine.Traced known) between)
    (held : plan.Holds (.ofCreation b.states.length plan.params creation) l.committed)
    (vital : between.vital =
      b.vital ++ [⟨.create plan.params, .ok creation⟩, ⟨.start creation.id, .ok ()⟩])
    (states : between.states = b.states ++ [.started]) :
    AccountedFor plan.params creation.id
      [⟨.create plan.params, .ok creation⟩, ⟨.start creation.id, .ok ()⟩]
      (Lifecycle.reported (l.decommission between).1) (l.decommission between).2.2 := by
  have traced := upheld.decommission.holds
  obtain ⟨calls, failures, state, taken, outcome, vital', -⟩ := decommission_effect held states
  rw [vital, List.append_assoc] at vital'
  obtain ⟨consistent, presence⟩ := traced_after before traced vital'
  have fate := taken.fate_of_created consistent
  rw [List.cons_append, List.cons_append, List.nil_append] at presence
  rw [← presence] at fate
  have same : Lifecycle.reported (l.decommission between).1 = failures := by
    rw [outcome]
    cases failures <;> rfl
  rw [same]
  rcases fate.accountedFor with gone | ⟨auto, exits, -⟩ | accounted
  · exact Or.inl gone
  · exact Or.inr (Or.inl ⟨auto, exits, by simp⟩)
  · exact Or.inr (Or.inr accounted)

/-- Every container that a commissioning creates is accounted for at the end of its unwinding, or of
the first decommissioning after it; commissionings that are refused in between do not count. -/
theorem survivors_accounted (stock : plan.Stock) (frank : p.engine.Frank)
    {calls : List LifecycleCall}
    {l : Lifecycle (Bench (Recorded Prompted)) ContainerError Container}
    {b : Bench (Recorded Prompted)}
    (reached : Lifecycle.run { stages := plan.stages } (Bench.opening p) calls = (l, b)) :
    ∃ made, (l.commission b).2.2.vital = b.vital ++ made ∧ ∀ creation ∈ creations made,
      (∀ error, (l.commission b).1 = .error error →
        AccountedFor plan.params creation.id made error.undoing (l.commission b).2.2) ∧
      ∀ product, (l.commission b).1 = .ok product → ∀ refusals : Nat,
        let again := (l.commission b).2.1.run (l.commission b).2.2
          (List.replicate refusals .commission)
        let ended := again.1.decommission again.2
        AccountedFor plan.params creation.id made (Lifecycle.reported ended.1) ended.2.2 := by
  have upheld := stock.traced frank calls
  have chain := Lifecycle.run_stages { stages := plan.stages } (Bench.opening p) calls
  rw [reached] at upheld chain
  dsimp only at upheld chain
  by_cases free : l.committed = []
  · -- The engine is followed from before the commissioning to the end of the container's life.
    have upheld' := upheld.commission
    have effect := commission_effect stock.discreet chain free b
    generalize l.commission b = commissioned at effect upheld' ⊢
    cases effect with
    | broken error made states after broken vital =>
      refine ⟨made, vital, fun creation mem => ⟨fun reported same => ?_, fun _ done => ?_⟩⟩
      · -- The unwinding ended this life.
        obtain rfl : error = reported := Except.error.inj same
        obtain ⟨consistent, presence⟩ := traced_after upheld.holds upheld'.holds vital
        rcases broken.fate consistent with ⟨-, none⟩ | ⟨only, state, -, created, fate⟩
        · rw [none] at mem
          cases mem
        · rw [created, List.mem_singleton] at mem
          subst mem
          rw [← presence] at fate
          exact fate.accountedFor
      · cases done
    | begun creation product stack after valid held vital states =>
      refine ⟨_, vital, fun only mem => ⟨fun _ failed => ?_, fun _ _ refusals => ?_⟩⟩
      · cases failed
      · -- Refused commissionings leave everything as it is until the decommissioning.
        obtain rfl : only = creation := List.mem_singleton.mp mem
        dsimp only
        rw [Lifecycle.run_replicate_taken held.taken]
        exact decommission_accountedFor upheld.holds upheld' held vital states
  · -- A commissioning that is refused creates nothing.
    rw [Lifecycle.commission_taken free]
    exact ⟨[], (List.append_nil _).symm, fun creation mem => absurd mem List.not_mem_nil⟩

/-- An engine whose stops are refused from the third call on. -/
def wedged : Prompted where
  script moment := if moment = 2 then [.refuse .stop "wedged"] else []

theorem wedged_frank : wedged.engine.Frank := fun _ mem => absurd mem List.not_mem_nil

/-- A plan for a container that removes itself once it is stopped, and for nothing else. -/
def redis : ContainerPlan (Recorded Prompted) where
  params := .ofImage ⟨none, none, "redis", some (.tag "7")⟩

theorem redis_stock : redis.Stock :=
  ⟨fun _ mem => absurd mem List.not_mem_nil, fun _ mem => absurd mem List.not_mem_nil⟩

/-- The lifecycle and the bench after a first container that could not be stopped. -/
def wedgedOnce : Lifecycle (Bench (Recorded Prompted)) ContainerError Container ×
    Bench (Recorded Prompted) :=
  Lifecycle.run { stages := redis.stages } (Bench.opening wedged) [.commission, .decommission]

theorem wedgedOnce_reached : Lifecycle.run { stages := redis.stages } (Bench.opening wedged)
    [.commission, .decommission] = (wedgedOnce.1, wedgedOnce.2) :=
  (Prod.eta wedgedOnce).symm

/-- A second container, which cannot be stopped either. -/
theorem survivors_accounted_of_wedged :
    ∃ made, creations made = [⟨MemoryEngine.idFor 2 redis.params.image, []⟩] ∧
      AccountedFor redis.params (MemoryEngine.idFor 2 redis.params.image) made
        (Lifecycle.reported (wedgedOnce.1.cycle wedgedOnce.2).2.1)
        (wedgedOnce.1.cycle wedgedOnce.2).2.2 := by
  obtain ⟨first, second, succeeds⟩ :
      creations wedgedOnce.2.vital = [⟨MemoryEngine.idFor 1 redis.params.image, []⟩] ∧
      creations (wedgedOnce.1.commission wedgedOnce.2).2.2.vital =
        [⟨MemoryEngine.idFor 1 redis.params.image, []⟩,
          ⟨MemoryEngine.idFor 2 redis.params.image, []⟩] ∧
      (wedgedOnce.1.commission wedgedOnce.2).1.isOk = true := by
    decide +kernel
  obtain ⟨made, vital, accounted⟩ := survivors_accounted redis_stock wedged_frank wedgedOnce_reached
  -- From here on nothing is computed.
  generalize wedgedOnce = world at *
  generalize MemoryEngine.idFor 1 redis.params.image = one at *
  generalize MemoryEngine.idFor 2 redis.params.image = two at *
  rw [vital, creations_append, first] at second
  have only : creations made = [⟨two, []⟩] := (List.cons.inj second).2
  refine ⟨made, only, ?_⟩
  cases outcome : (world.1.commission world.2).1 with
  | error cause => simp [outcome, Except.isOk, Except.toBool] at succeeds
  | ok product =>
    have created : ⟨two, []⟩ ∈ creations made := by simp [only]
    exact (accounted ⟨two, []⟩ created).2 product outcome 0

end ContainerPlan

end ContainerFixture
