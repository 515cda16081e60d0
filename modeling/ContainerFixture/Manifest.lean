import ContainerFixture.Params

/-!
# Manifests

A manifest describes a container and the work done on it before and after it starts.
`Manifest.resolve` turns it into container parameters and actions whose host paths are resolved
against the directory of the manifest, or names the first rule that the manifest breaks.
-/
namespace ContainerFixture

open Text

structure PortEntry where
  container : UInt16
  protocol : Protocol
  host : Option UInt16
  deriving DecidableEq, Repr

/-- A directory of the host that the manifest's container sees. -/
structure MountEntry where
  host : String
  container : String
  readOnly : Bool
  deriving DecidableEq, Repr

structure ContainerSection where
  image : String
  name : Option String
  command : List String
  commandType : CommandType
  disableAutoRemove : Bool
  stopTimeout : Option UInt64
  tmpfs : List String
  env : TextMap
  labels : TextMap
  ports : List PortEntry
  mounts : List MountEntry
  deriving DecidableEq

/-- Work done on a container that is created and not yet started. -/
inductive PreStartAction where
  /-- Copies a file or directory of the host into the container. -/
  | copy (hostPath remote : String)
  deriving DecidableEq, Repr

/-- Work done on a running container. -/
inductive PostStartAction where
  /-- Waits for a line of a stream that matches a pattern, for so many seconds. -/
  | awaitLog (pattern : String) (stream : LogStream) (timeout : UInt64)
  /-- Runs a command in the container. -/
  | exec (command : List String) (env : TextMap)
  /-- Copies a file or directory of the container to the host. -/
  | copyOut (remote hostPath : String)
  deriving DecidableEq

structure Manifest where
  version : UInt32
  container : ContainerSection
  preStart : List PreStartAction
  postStart : List PostStartAction
  deriving DecidableEq

/-- A valid manifest with its host paths resolved. -/
structure ResolvedManifest where
  params : Params
  preStart : List PreStartAction
  postStart : List PostStartAction
  deriving DecidableEq

inductive ActionKind where
  | preStartCopy
  | postStartExec
  | postStartCopyOut
  deriving DecidableEq, Repr

def ActionKind.text : ActionKind → String
  | preStartCopy => "pre_start copy"
  | postStartExec => "post_start exec"
  | postStartCopyOut => "post_start copy-out"

/-- The rules that a manifest can break. -/
inductive ManifestError where
  | unsupportedVersion (version : UInt32)
  | image (cause : ImageError)
  | params (cause : ParamsError)
  | emptyCommand (action : ActionKind)
  | emptyPattern
  | awaitTimeoutTooLong (seconds : UInt64)
  | relativeRemotePath (action : ActionKind) (path : String)
  deriving DecidableEq, Repr

namespace Manifest

/-- The only version of manifests. -/
def supportedVersion : UInt32 := 1

/-- The seconds that a line is awaited unless the manifest says otherwise. -/
def defaultAwaitTimeout : UInt64 := 60

/-- The most seconds that a line may be awaited: one day. -/
def maxAwaitTimeout : UInt64 := 86400

end Manifest

def ManifestError.message : ManifestError → String
  | .unsupportedVersion version =>
    "unsupported manifest_version: " ++ version.toNat.repr ++ ", expected 1"
  | .image cause => "container.image: " ++ cause.message
  | .params cause => "container: " ++ cause.message
  | .emptyCommand action => action.text ++ ": command must not be empty"
  | .emptyPattern => "post_start await-log pattern must not be empty"
  | .awaitTimeoutTooLong seconds =>
    "post_start await-log timeout_secs " ++ seconds.toNat.repr ++ " exceeds the maximum of " ++
      Manifest.maxAwaitTimeout.toNat.repr
  | .relativeRemotePath action path =>
    action.text ++ ": remote path '" ++ path ++ "' must be absolute"

namespace Manifest

def portSpec (entry : PortEntry) : PortSpec := ⟨entry.container, entry.protocol, entry.host⟩

def bindMount (baseDir : String) (entry : MountEntry) : BindMount where
  hostDir := HostPath.join baseDir entry.host
  containerDir := entry.container
  mode := if entry.readOnly then .readOnly else .readWrite

/-- The name of the container, if there is one that is not blank. -/
def containerName (name : Option String) : Option String :=
  (name.map trim).filter fun trimmed => !trimmed.isEmpty

def containerParams (container : ContainerSection) (image : Image) (baseDir : String) : Params where
  image
  name := containerName container.name
  command := container.command
  commandType := container.commandType
  ports := container.ports.map portSpec
  env := container.env
  bindMounts := container.mounts.map (bindMount baseDir)
  tmpfs := container.tmpfs
  labels := container.labels
  disableAutoRemove := container.disableAutoRemove
  stopTimeout := container.stopTimeout.getD Params.defaultStopTimeout

/-- A path inside the container must be absolute. -/
def requireAbsolute (action : ActionKind) (path : String) : Except ManifestError Unit :=
  if HostPath.isAbsolute path then .ok () else .error (.relativeRemotePath action path)

def resolvePreStart (baseDir : String) : PreStartAction → Except ManifestError PreStartAction
  | .copy hostPath remote => do
    requireAbsolute .preStartCopy remote
    return .copy (HostPath.join baseDir hostPath) remote

def resolvePostStart (baseDir : String) : PostStartAction → Except ManifestError PostStartAction
  | .awaitLog pattern stream timeout => do
    if pattern.isEmpty then throw .emptyPattern
    if maxAwaitTimeout < timeout then throw (.awaitTimeoutTooLong timeout)
    return .awaitLog pattern stream timeout
  | .exec command env => do
    if command.isEmpty then throw (.emptyCommand .postStartExec)
    return .exec command env
  | .copyOut remote hostPath => do
    requireAbsolute .postStartCopyOut remote
    return .copyOut remote (HostPath.join baseDir hostPath)

/-- Checks a manifest and resolves its host paths against a directory. The first rule broken is
the error, in this order: the version, the image, the parameters, the actions before the start,
the actions after it. -/
def resolve (manifest : Manifest) (baseDir : String) : Except ManifestError ResolvedManifest := do
  if manifest.version ≠ supportedVersion then throw (.unsupportedVersion manifest.version)
  let image ← (Image.parse manifest.container.image).mapError .image
  let params := containerParams manifest.container image baseDir
  params.validate.mapError .params
  let preStart ← manifest.preStart.mapM (resolvePreStart baseDir)
  let postStart ← manifest.postStart.mapM (resolvePostStart baseDir)
  return ⟨params, preStart, postStart⟩

end Manifest

end ContainerFixture
