import ContainerFixture.Container.Stages
import ContainerFixture.Manifest

/-!
# Plans for one container

The chain of one container: it is created, stages prepare it, it is started, and stages follow. A
manifest is turned into the stages of its actions, in their order.
-/

namespace ContainerFixture

open Text

/-- A container to be, with the stages before and after its start. -/
structure ContainerPlan (E : Type) where
  params : Params
  preStart : List (ContainerStage E) := []
  postStart : List (ContainerStage E) := []

namespace ContainerPlan

variable {E : Type} [Engine E]

def stages (plan : ContainerPlan E) : List (ContainerStage E) :=
  ContainerStage.create plan.params :: plan.preStart ++ ContainerStage.start :: plan.postStart

end ContainerPlan

variable {E : Type} [Engine E]

def PreStartAction.stage : PreStartAction → ContainerStage E
  | .copy hostPath remotePath => ContainerStage.copyInto hostPath remotePath

/-- The stage of an action after the start. -/
def PostStartAction.stage? : PostStartAction → Except ContainerError (ContainerStage E)
  | .awaitLog pattern stream timeout =>
    ContainerStage.awaitLog? pattern stream (.ofSeconds timeout.toNat)
  | .exec command env => .ok (ContainerStage.exec command env)
  | .copyOut remotePath hostPath => .ok (ContainerStage.copyOut remotePath hostPath)

/-- The plan of a manifest. The only thing that can be wrong with it is a pattern. -/
def ResolvedManifest.plan? (manifest : ResolvedManifest) :
    Except ContainerError (ContainerPlan E) := do
  let postStart ← manifest.postStart.mapM PostStartAction.stage?
  return { params := manifest.params, preStart := manifest.preStart.map PreStartAction.stage,
           postStart }

end ContainerFixture
