import ContainerFixture.HostPath
import ContainerFixture.Image
import ContainerFixture.Port
import ContainerFixture.Text.Map

/-!
# Container parameters

Everything an engine needs to create a container. `Params.validate` names the first rule that a
set of parameters breaks; the order of the rules is part of its meaning.
-/
namespace ContainerFixture

open Text

/-- How a container's command behaves once it runs. -/
inductive CommandType where
  /-- It runs until it is stopped. -/
  | blocking
  /-- It ends by itself. -/
  | exitingImmediately
  deriving DecidableEq, Repr

inductive LogStream where
  | stdout
  | stderr
  deriving DecidableEq, Repr

/-- What a container may do with a directory of the host. -/
inductive AccessMode where
  | readOnly
  | readWrite
  deriving DecidableEq, Repr

/-- Who removes a container once it has stopped: the engine, or its owner. -/
inductive Stickiness where
  | autoRemoveEnabled
  | manualRemoveRequired
  deriving DecidableEq, Repr

namespace CommandType

def text : CommandType → String
  | blocking => "blocking"
  | exitingImmediately => "exiting-immediately"

def requiresStop : CommandType → Bool
  | blocking => true
  | exitingImmediately => false

end CommandType

def LogStream.text : LogStream → String
  | .stdout => "stdout"
  | .stderr => "stderr"

def AccessMode.text : AccessMode → String
  | .readOnly => "read-only"
  | .readWrite => "read-write"

def Stickiness.text : Stickiness → String
  | .autoRemoveEnabled => "auto-remove-enabled"
  | .manualRemoveRequired => "manual-remove-required"

/-- A directory of the host that a container sees. -/
structure BindMount where
  /-- Its path, which is text: a path that is no Unicode, of which a text shows only a part, is not
  among these. -/
  hostDir : String
  containerDir : String
  mode : AccessMode
  deriving DecidableEq, Repr

/-- A port that a container exposes. With a host port it is published there; the host port zero
leaves the choice to the engine. -/
structure PortSpec where
  containerPort : UInt16
  protocol : Protocol
  hostPort : Option UInt16
  deriving DecidableEq, Repr

/-- What an engine needs to create a container. -/
structure Params where
  image : Image
  name : Option String
  command : List String
  commandType : CommandType
  ports : List PortSpec
  env : TextMap
  bindMounts : List BindMount
  tmpfs : List String
  labels : TextMap
  disableAutoRemove : Bool
  /-- Seconds that the container is given to stop by itself. -/
  stopTimeout : UInt64
  deriving DecidableEq

/-- Why parameters are refused. -/
inductive ParamsError where
  | zeroContainerPort
  | relativeContainerPath (path : String)
  | invalidEnvName (name : String)
  | emptyLabelKey
  deriving DecidableEq, Repr

def ParamsError.message : ParamsError → String
  | .zeroContainerPort => "container port must be non-zero"
  | .relativeContainerPath path => "container path '" ++ path ++ "' must be absolute"
  | .invalidEnvName name => "invalid environment variable name '" ++ name ++ "'"
  | .emptyLabelKey => "label keys must not be empty"

namespace Params

/-- The seconds that a container is given to stop unless its parameters say otherwise. -/
def defaultStopTimeout : UInt64 := 10

def ofImage (image : Image) : Params where
  image
  name := none
  command := []
  commandType := .blocking
  ports := []
  env := .empty
  bindMounts := []
  tmpfs := []
  labels := .empty
  disableAutoRemove := false
  stopTimeout := defaultStopTimeout

/-- The same parameters with one more port that is not published. -/
def expose (params : Params) (port : UInt16) (protocol : Protocol) : Params :=
  { params with ports := params.ports ++ [⟨port, protocol, none⟩] }

/-- The same parameters with one more port, published on a port of the host. -/
def publish (params : Params) (port : UInt16) (protocol : Protocol) (host : UInt16) : Params :=
  { params with ports := params.ports ++ [⟨port, protocol, some host⟩] }

def withEnv (params : Params) (name value : String) : Params :=
  { params with env := params.env.insert name value }

def withLabel (params : Params) (key value : String) : Params :=
  { params with labels := params.labels.insert key value }

/-- The same parameters with one more directory of the host. -/
def bind (params : Params) (hostDir containerDir : String) (mode : AccessMode) : Params :=
  { params with bindMounts := params.bindMounts ++ [⟨hostDir, containerDir, mode⟩] }

/-- The same parameters with one more temporary file system. -/
def withTmpfs (params : Params) (path : String) : Params :=
  { params with tmpfs := params.tmpfs ++ [path] }

/-- Whether the engine removes the container by itself once it has stopped. -/
def autoRemove (params : Params) : Bool := !params.disableAutoRemove

def stickiness (params : Params) : Stickiness :=
  if params.autoRemove then .autoRemoveEnabled else .manualRemoveRequired

/-- The paths inside the container: those of the mounts, then those of the temporary file
systems. -/
def containerPaths (params : Params) : List String :=
  params.bindMounts.map (·.containerDir) ++ params.tmpfs

/-- Whether a text can name an environment variable. -/
def isEnvName (name : String) : Bool := !name.isEmpty && !('=' ∈ name.toList)

/-- The first rule broken: a container port is not zero, container paths are absolute, environment
variables can be named, label keys are not empty. -/
def validate (params : Params) : Except ParamsError Unit := do
  if params.ports.any (·.containerPort = 0) then throw .zeroContainerPort
  match params.containerPaths.find? fun path => !HostPath.isAbsolute path with
  | some path => throw (.relativeContainerPath path)
  | none => pure ()
  match params.env.keys.find? fun name => !isEnvName name with
  | some name => throw (.invalidEnvName name)
  | none => pure ()
  if params.labels.keys.any String.isEmpty then throw .emptyLabelKey

theorem validate_eq_ok_iff {params : Params} : params.validate = .ok () ↔
    (∀ port ∈ params.ports, port.containerPort ≠ 0) ∧
    (∀ path ∈ params.containerPaths, HostPath.isAbsolute path = true) ∧
    (∀ name ∈ params.env.keys, isEnvName name = true) ∧
    ∀ key ∈ params.labels.keys, key ≠ "" := by
  have ports : params.ports.any (·.containerPort = 0) = false ↔
      ∀ port ∈ params.ports, port.containerPort ≠ 0 := by simp
  have paths : (params.containerPaths.find? fun path => !HostPath.isAbsolute path) = none ↔
      ∀ path ∈ params.containerPaths, HostPath.isAbsolute path = true := by simp
  have names : (params.env.keys.find? fun name => !isEnvName name) = none ↔
      ∀ name ∈ params.env.keys, isEnvName name = true := by simp
  have keys : params.labels.keys.any String.isEmpty = false ↔
      ∀ key ∈ params.labels.keys, key ≠ "" := by simp
  rw [← ports, ← paths, ← names, ← keys, validate]
  -- Each rule that is broken ends the check with its error.
  cases params.ports.any (·.containerPort = 0) with
  | true => simp [Bind.bind, Except.bind, throw, throwThe, MonadExceptOf.throw]
  | false =>
    cases params.containerPaths.find? fun path => !HostPath.isAbsolute path with
    | some path => simp [Bind.bind, Except.bind, throw, throwThe, MonadExceptOf.throw]
    | none =>
      cases params.env.keys.find? fun name => !isEnvName name with
      | some name => simp [Bind.bind, Except.bind, throw, throwThe, MonadExceptOf.throw]
      | none =>
        cases params.labels.keys.any String.isEmpty <;>
          simp [throw, throwThe, MonadExceptOf.throw, pure, Except.pure]

end Params

end ContainerFixture
