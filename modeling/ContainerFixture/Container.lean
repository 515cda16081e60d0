import ContainerFixture.Engine
import ContainerFixture.Text.Quoted

/-!
# Containers

A container handle is what its creation told of it. Its state is kept on a bench beside the engine,
so that everyone who holds the handle sees the same state. The state only moves along the
transitions that `ContainerState.canBecome` allows.
-/

namespace ContainerFixture

open Text

/-- What has been done with a container. -/
inductive ContainerState where
  | defined
  | created
  | started
  | stopped
  | removed
deriving DecidableEq, Repr

namespace ContainerState

def text : ContainerState → String
  | defined => "defined"
  | created => "created"
  | started => "started"
  | stopped => "stopped"
  | removed => "removed"

/-- The name of a state as it stands in the text of a container. -/
def title : ContainerState → String
  | defined => "Defined"
  | created => "Created"
  | started => "Started"
  | stopped => "Stopped"
  | removed => "Removed"

def all : List ContainerState := [defined, created, started, stopped, removed]

/-- Whether a container can go from one state to another. -/
def canBecome : ContainerState → ContainerState → Bool
  | defined, created => true
  | created, started => true
  | started, stopped => true
  | created, removed | started, removed | stopped, removed => true
  | _, _ => false

end ContainerState

/-- Why something could not be done with a container. -/
inductive ContainerError where
  | engine (operation : EngineOperation) (cause : EngineError)
  | invalidTransition (source target : ContainerState)
  | execFailed (exitCode : Int) (stderr : String)
  | readinessTimeout (pattern : String) (stream : LogStream) (timeout : Duration)
  | logStreamEnded (pattern : String) (stream : LogStream)
  /-- A text that should be a pattern is none. -/
  | invalidPattern
  | params (cause : ParamsError)
  | missingSource (path : String)
  /-- A stage that works on a container was given none. -/
  | noContainer
deriving DecidableEq, Repr

def ContainerError.message : ContainerError → String
  | engine operation cause => s!"container {operation.text} failed: {cause.message}"
  | invalidTransition source target =>
    s!"invalid container transition from {source.text} to {target.text}"
  | execFailed exitCode stderr => s!"command exited with status {exitCode}: {stderr}"
  | readinessTimeout pattern stream timeout =>
    s!"no {stream.text} line matching '{pattern}' within {timeout.text}"
  | logStreamEnded pattern stream => s!"{stream.text} ended before a line matched '{pattern}'"
  | invalidPattern => "invalid log pattern: "
  | params cause => s!"invalid container parameters: {cause.message}"
  | missingSource path => s!"nothing to copy at {path}"
  | noContainer => "there is no container yet"

/-- Whether a transition is allowed, as an error if it is not. -/
def ContainerState.validate (source target : ContainerState) : Except ContainerError Unit :=
  if source.canBecome target then .ok () else .error (.invalidTransition source target)

/-- A handle to a created container. -/
structure Container where
  /-- The place of its state on the bench. -/
  place : Nat
  id : ContainerId
  name : Option String
  image : Image
  stickiness : Stickiness
  commandType : CommandType
  /-- Seconds that the container is given to stop by itself. -/
  stopTimeout : UInt64
  warnings : List String
deriving DecidableEq

namespace Container

/-- The handle of a container created with some parameters. -/
def ofCreation (place : Nat) (params : Params) (creation : Creation) : Container where
  place
  id := creation.id
  name := params.name
  image := params.image
  stickiness := params.stickiness
  commandType := params.commandType
  stopTimeout := params.stopTimeout
  warnings := creation.warnings

/-- Whether the container has to be stopped before it can go away. -/
def stopRequired (c : Container) : Bool := c.commandType.requiresStop

/-- Whether the engine removes the container once it has stopped. -/
def removesItself (c : Container) : Bool := c.stickiness = .autoRemoveEnabled

end Container

/-- An engine, and the states of the containers created on it, oldest first. -/
structure Bench (E : Type) where
  engine : E
  states : List ContainerState := []

namespace Bench

variable {E : Type}

def state (b : Bench E) (c : Container) : ContainerState := b.states.getD c.place .defined

/-- Whether a container is there and has been started, even if it was stopped since. -/
def wasStarted (b : Bench E) (c : Container) : Bool :=
  b.state c = .started || b.state c = .stopped

def textOf (b : Bench E) (c : Container) : String :=
  s!"Container \x7b id: ContainerId({quoted c.id.text}), state: {(b.state c).title}, .. \x7d"

variable [Engine E]

def call (request : EngineCall) : Action (Bench E) EngineError request.Answer :=
  (Engine.perform request).within Bench.engine fun engine b => { b with engine }

/-- Calls the engine on behalf of a container. -/
def ask (request : EngineCall) : Action (Bench E) ContainerError request.Answer :=
  (call request).mapError (.engine request.operation)

/-- Takes it for done when there is no such container any more. -/
def unlessGone (step : Action (Bench E) EngineError Unit) : Action (Bench E) EngineError Unit :=
  step.recover fun cause => if cause.isNotFound then some () else none

/-- Moves a container to another state, if it can go there. -/
def transition (c : Container) (target : ContainerState) : Action (Bench E) ContainerError Unit :=
  fun b =>
    match (b.state c).validate target with
    | .ok () => (.ok (), { b with states := b.states.set c.place target })
    | .error cause => (.error cause, b)

/-! ### What can be done with a container -/

def exec (c : Container) (env : TextMap) (command : List String) :
    Action (Bench E) ContainerError ExecOutput :=
  ask (.exec c.id env command)

def copyTo (c : Container) (localPath remotePath : String) :
    Action (Bench E) ContainerError Unit :=
  ask (.copyTo c.id localPath remotePath)

def copyFrom (c : Container) (remotePath localPath : String) :
    Action (Bench E) ContainerError Unit :=
  ask (.copyFrom c.id remotePath localPath)

def followLogs (c : Container) (stream : LogStream) : Action (Bench E) ContainerError LogFeed :=
  ask (.followLogs c.id stream)

def portBindings (c : Container) : Action (Bench E) ContainerError (List PortBinding) :=
  ask (.portBindings c.id)

/-- The first address of the host on which a port of the container is published, if there is one. -/
def hostPort (c : Container) (port : UInt16) (protocol : Protocol) :
    Action (Bench E) ContainerError (Option HostAddress) := do
  let bindings ← portBindings c
  pure ((bindings.filter fun b => b.containerPort = port && b.protocol = protocol).findSome?
    (·.host))

end Bench

end ContainerFixture
