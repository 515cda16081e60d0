import ContainerFixture.Proofs.Lifecycle.Bracketing
import ContainerFixture.Proofs.Provider.Cell
import Mathlib.Data.List.Nodup

/-!
# The stages behind a provider

How the calls of a provider's stages in the trace of a run relate to the stages that its lifecycle
has committed. The lifecycle is commissioned only while none is committed and before it is swept, so
that a commission is never refused, and what is swept stays swept.
-/

namespace ContainerFixture

variable {σ ε π : Type}

/-- The calls of a provider's stages in a trace, in their order. -/
def stageCalls (p : Nat) (trace : List (Seen ε π)) : List StageCall :=
  trace.flatMap (Seen.stageCalls p)

@[simp] theorem stageCalls_concat (p : Nat) (trace : List (Seen ε π)) (seen : Seen ε π) :
    stageCalls p (trace ++ [seen]) = stageCalls p trace ++ seen.stageCalls p := by
  simp [stageCalls]

/-- What holds of the lifecycle of a provider over these stages between steps. -/
structure StagesInvariant (stages : List (Stage σ ε π)) (p : Nat) (trace : List (Seen ε π))
    (m : Machine σ ε π) : Prop where
  stages_eq : (m.group.provider p).lifecycle.stages = stages
  unacquired : (∀ product calls, .commissioned p (.ok product) calls ∉ trace) →
    (m.group.provider p).lifecycle.committed = []
  swept : 0 < trace.countP (Seen.decommissions p) → (m.group.provider p).lifecycle.committed = []
  acquired : ∀ outcome calls, .commissioned p outcome calls ∈ trace →
    ∃ placed, Lifecycle.Acquired stages.length outcome placed calls
  nested : Nested (stageCalls p trace) (m.group.provider p).lifecycle.indices.reverse
  once : ∀ place, (stageCalls p trace).count (.commission place true) ≤
    trace.countP (Seen.commissions p)

/-! ### Counting the calls of one commission -/

theorem count_commissions_le_one {indices : List Nat} (distinct : indices.Nodup) (place : Nat) :
    (StageCall.commissions indices).count (.commission place true) ≤ 1 := by
  have injective : Function.Injective (StageCall.commission · true) := fun i j same => by
    simpa using same
  exact List.nodup_iff_count_le_one.mp (distinct.map injective) (.commission place true)

theorem count_decommissions (indices : List Nat) (outcomes : List Bool) (place : Nat) :
    (StageCall.decommissions indices outcomes).count (.commission place true) = 0 := by
  induction indices generalizing outcomes with
  | nil => rfl
  | cons index rest ih =>
    cases outcomes with
    | nil => rfl
    | cons outcome outcomes => simpa [StageCall.decommissions] using ih outcomes

theorem Lifecycle.Acquired.count_le_one {n : Nat} {outcome : Except (LifecycleError ε) (Option π)}
    {placed : List Nat} {calls : List StageCall} (acquired : Acquired n outcome placed calls)
    (place : Nat) : calls.count (.commission place true) ≤ 1 := by
  cases acquired with
  | whole product => exact count_commissions_le_one List.nodup_range place
  | undone failed cause unwinding outcomes =>
    have climbed := count_commissions_le_one (List.nodup_range (n := failed.index)) place
    simpa [count_decommissions] using climbed

theorem Lifecycle.Acquired.placed_of_error {n : Nat} {cause : LifecycleError ε} {placed : List Nat}
    {calls : List StageCall} (acquired : Acquired (π := π) n (.error cause) placed calls) :
    placed = [] := by
  cases acquired
  rfl

/-- A commission of an uncommitted chain does not answer that it came too late. -/
theorem Lifecycle.Acquired.in_time {n : Nat} {outcome : Except (LifecycleError ε) (Option π)}
    {placed : List Nat} {calls : List StageCall} (acquired : Acquired n outcome placed calls) :
    outcome ≠ .error .alreadyCommissioned ∧ outcome ≠ .error .alreadyFinished := by
  cases acquired <;> simp

/-! ### Steps and runs -/

/-- The provider is commissioned while no stage is committed. -/
theorem CellInvariant.commissionable {p t : Nat} {trace : List (Seen ε π)} {m : Machine σ ε π}
    (cell : CellInvariant p trace m) (here : m.threads t = .inside p .commissioning) :
    (∀ outcome calls, .commissioned p outcome calls ∉ trace) ∧
      trace.countP (Seen.decommissions p) = 0 := by
  obtain ⟨unmade, -, unswept⟩ := (here ▸ cell.known t) rfl
  refine ⟨fun outcome calls shown => ?_, unswept⟩
  have other := List.countP_eq_zero.mp unmade _ shown
  simp [Seen.commissions] at other

theorem Step.stagesInvariant {stages : List (Stage σ ε π)} {p t : Nat} {trace : List (Seen ε π)}
    {seen : Seen ε π} {m next : Machine σ ε π} (step : Step t m seen next)
    (known : p < m.group.providers.length) (cell : CellInvariant p trace m)
    (invariant : StagesInvariant stages p trace m) :
    StagesInvariant stages p (trace ++ [seen]) next := by
  rcases step.lifecycle_cases known with ⟨rfl, here, -, after⟩ | ⟨asker, rfl, here, after⟩ |
    ⟨uncommissioned, unswept, uncalled, same⟩
  · -- The commission: the only one, and before any sweep, so that no stage is committed yet.
    obtain ⟨unmade, unswept⟩ := cell.commissionable here
    have free := invariant.unacquired fun product => unmade (.ok product)
    have acquired := Lifecycle.commission_acquired free m.group.world
    have nested := Lifecycle.perform_nested invariant.nested m.group.world .commission
    rw [invariant.stages_eq] at acquired
    refine
      { stages_eq := by rw [after, Lifecycle.commission_stages, invariant.stages_eq]
        unacquired := fun none => ?_
        swept := fun swept => by simp [unswept, Seen.decommissions] at swept
        acquired := fun outcome calls shown => ?_
        nested := by
          simpa [Seen.stageCalls, after, Lifecycle.stageCalls, Lifecycle.perform] using nested
        once := fun place => ?_ }
    · cases result : ((m.group.provider p).lifecycle.commission m.group.world).1 with
      | ok product =>
        have latest := none product ((m.group.provider p).lifecycle.commissionCalls m.group.world)
        simp [result] at latest
      | error cause =>
        rw [result] at acquired
        rw [after, Lifecycle.committed_eq_nil_iff]
        exact acquired.placed_of_error
    · have latest := (List.mem_append.mp shown).resolve_left (unmade outcome calls)
      obtain ⟨-, rfl, rfl⟩ : p = p ∧ _ := by simpa using latest
      exact ⟨_, acquired⟩
    · have before := invariant.once place
      have more := acquired.count_le_one place
      simp [Seen.stageCalls, Seen.commissions]
      omega
  · -- The sweep leaves no stage committed, and no call of it acquires one.
    have nested := Lifecycle.perform_nested invariant.nested m.group.world .decommission
    obtain ⟨outcomes, -, calls⟩ :=
      Lifecycle.decommissionCalls_released (m.group.provider p).lifecycle m.group.world
    exact
      { stages_eq := by rw [after, ← invariant.stages_eq]; rfl
        unacquired := fun _ => by simp [after]
        swept := fun _ => by simp [after]
        acquired := fun outcome calls shown =>
          invariant.acquired outcome calls (by simpa using shown)
        nested := by
          simpa [Seen.stageCalls, after, Lifecycle.stageCalls, Lifecycle.perform] using nested
        once := fun place => by
          simpa [Seen.stageCalls, Seen.commissions, calls, count_decommissions] using
            invariant.once place }
  · have shown (outcome calls) : .commissioned p outcome calls ∈ trace ++ [seen] ↔
        .commissioned p outcome calls ∈ trace := by
      simp only [List.mem_append, List.mem_singleton, or_iff_left_iff_imp]
      rintro rfl
      simp [Seen.commissions] at uncommissioned
    exact
      { stages_eq := by rw [same, invariant.stages_eq]
        unacquired := fun none => by
          rw [same]
          exact invariant.unacquired fun product calls => (shown _ _).not.mp (none product calls)
        swept := fun swept => by
          rw [same]
          exact invariant.swept (by simpa [unswept] using swept)
        acquired := fun outcome calls before =>
          invariant.acquired outcome calls ((shown _ _).mp before)
        nested := by simpa [uncalled, same] using invariant.nested
        once := fun place => by simpa [uncalled, uncommissioned] using invariant.once place }

section
variable {world : σ} {chains : List (List (Stage σ ε π) × Scope)} {trace : List (Seen ε π)}
  {m : Machine σ ε π} {p : Nat}

theorem Run.stagesInvariant (run : Run (.atRest (.ofChains world chains)) trace m)
    (known : p < chains.length) : StagesInvariant chains[p].1 p trace m := by
  induction run with
  | refl =>
    have unused := ProviderGroup.provider_ofChains world known
    constructor <;> simp [Machine.atRest, unused, stageCalls, Lifecycle.indices, Nested.nil]
  | step before step ih =>
    exact step.stagesInvariant (by rwa [before.length]) (before.cellInvariant known) ih

end

end ContainerFixture
