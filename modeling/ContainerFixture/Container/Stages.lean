import ContainerFixture.Container
import ContainerFixture.Container.LogWatch
import ContainerFixture.Lifecycle.Stage
import ContainerFixture.Pattern.Parser
import ContainerFixture.Text.Blank

/-!
# Stages of a container

The stages that create and start a container, and those that work on one. Only the first two acquire
anything. A container whose engine removes it once it stops is not removed by hand after it was
started, and a container whose command ends by itself is not stopped.
-/

namespace ContainerFixture

open Text

/-- A stage of a chain for one container. -/
abbrev ContainerStage (E : Type) := Stage (Bench E) ContainerError Container

namespace ContainerStage

variable {E : Type} [Engine E]

/-- Takes a container down for good, unless the engine does it. -/
def removeContainer (c : Container) : Action (Bench E) ContainerError Unit := do
  let leftToEngine ← Action.read fun b => c.removesItself && b.wasStarted c
  if leftToEngine then Bench.transition c .removed
  else
    (Bench.unlessGone (Bench.call (.remove c.id true))).mapError (.engine .remove)
    Bench.transition c .removed

/-- Creates a container, after its parameters were found valid. -/
def createContainer (params : Params) : Action (Bench E) ContainerError Container := do
  Action.ofExcept (params.validate.mapError .params)
  let creation ← Bench.ask (.create params)
  fun b =>
    (.ok (Container.ofCreation b.states.length params creation),
      { b with states := b.states ++ [.created] })

/-- Stops a container whose command does not end by itself. -/
def stopContainer (c : Container) : Action (Bench E) ContainerError Unit :=
  if c.stopRequired then do
    let timeout := Duration.ofSeconds c.stopTimeout.toNat
    (Bench.unlessGone (Bench.call (.stop c.id timeout))).mapError (.engine .stop)
    Bench.transition c .stopped
  else pure ()

def create (params : Params) : ContainerStage E where
  name := "create-container"
  commission _ := createContainer params
  decommission := removeContainer

/-- A stage on a container. -/
def onContainer (name : String) (commission : Container → Action (Bench E) ContainerError Unit)
    (decommission : Container → Action (Bench E) ContainerError Unit) : ContainerStage E where
  name
  commission
    | none => Action.fail .noContainer
    | some c => do
      commission c
      pure c
  decommission

/-- A stage that acquires nothing. -/
def working (name : String) (commission : Container → Action (Bench E) ContainerError Unit) :
    ContainerStage E :=
  onContainer name commission fun _ => pure ()

def start : ContainerStage E :=
  onContainer "start-container"
    (fun c => do
      Bench.ask (.start c.id)
      Bench.transition c .started)
    stopContainer

/-- Copies something from the host, where it has to be, into the container. -/
def copyInto (localPath remotePath : String) : ContainerStage E :=
  working s!"copy {localPath} into {remotePath}" fun c => do
    if ← Action.read fun b => Engine.pathExists localPath b.engine then
      Bench.copyTo c localPath remotePath
    else Action.fail (.missingSource localPath)

def copyOut (remotePath localPath : String) : ContainerStage E :=
  working s!"copy {remotePath} out to {localPath}" fun c => Bench.copyFrom c remotePath localPath

def execName (command : List String) : String :=
  let joined := " ".intercalate command
  s!"exec {joined}"

/-- Runs a command that has to succeed. -/
def exec (command : List String) (env : TextMap) : ContainerStage E :=
  working (execName command) fun c => do
    let output ← Bench.exec c env command
    if output.isSuccess then pure ()
    else Action.fail (.execFailed output.exitCode (trim output.stderr))

/-- Waits until the container writes a line in which a pattern occurs. -/
def awaitLog (source : String) (pattern : Pattern) (stream : LogStream) (timeout : Duration) :
    ContainerStage E :=
  working s!"await {stream.text} /{source}/" fun c => do
    let feed ← Bench.followLogs c stream
    match feed.watch pattern.occursIn timeout with
    | .matched _ => pure ()
    | .timedOut => Action.fail (.readinessTimeout source stream timeout)
    | .ended => Action.fail (.logStreamEnded source stream)

/-- The same, from the text of a pattern. -/
def awaitLog? (source : String) (stream : LogStream) (timeout : Duration) :
    Except ContainerError (ContainerStage E) :=
  match Pattern.parse? source with
  | none => .error .invalidPattern
  | some pattern => .ok (awaitLog source pattern stream timeout)

end ContainerStage

end ContainerFixture
