import ContainerFixture.Container.Stages
import ContainerFixture.Lifecycle.Rehearsal

/-!
# Container stages beside scripted ones

A world in which the stages of a container and scripted stages stand in one chain.
-/

namespace ContainerFixture

/-- Why a stage failed, be it one of a container or a scripted one. -/
inductive StageCause where
  | container (cause : ContainerError)
  | other (reason : String)
deriving DecidableEq, Repr

def StageCause.message : StageCause → String
  | container cause => cause.message
  | other reason => reason

/-- A bench with a rehearsal beside it. -/
structure RehearsedBench (E : Type) where
  bench : Bench E
  rehearsal : Rehearsal := {}

variable {E : Type}

/-- A stage of a container in the larger world. -/
def ContainerStage.beside (stage : ContainerStage E) :
    Stage (RehearsedBench E) StageCause Container :=
  (stage.mapError .container).within RehearsedBench.bench fun bench w => { w with bench }

/-- A scripted stage that hands on the container that it is given. -/
def ScriptedStage.passing (scripted : ScriptedStage) (r : Rehearsal) :
    Stage (RehearsedBench E) StageCause Container × Rehearsal :=
  let pass : Option Container → Except String Container
    | some c => .ok c
    | none => .error ContainerError.noContainer.message
  let (stage, r) := scripted.toStage (fun _ => "") pass r
  ((stage.mapError .other).within RehearsedBench.rehearsal fun rehearsal w =>
    { w with rehearsal }, r)

end ContainerFixture
