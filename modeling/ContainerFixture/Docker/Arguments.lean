import ContainerFixture.Container.Id
import ContainerFixture.Params

/-!
# Arguments of the docker client

The argument lists with which the command line client of an engine is called.
-/
namespace ContainerFixture.Docker

open Text

/-- The port of a `--publish` option. -/
def publishText (port : PortSpec) : String :=
  (port.hostPort.map fun host => host.toNat.repr ++ ":").getD "" ++
    port.containerPort.toNat.repr ++ "/" ++ port.protocol.text

def modeText : AccessMode → String
  | .readOnly => "ro"
  | .readWrite => "rw"

/-- The mount of a `--volume` option. -/
def volumeText (mount : BindMount) : String :=
  mount.hostDir ++ ":" ++ mount.containerDir ++ ":" ++ modeText mount.mode

/-- The entries of a map, each with an option before it. -/
def pairOptions (option : String) (map : TextMap) : List String :=
  map.entries.flatMap fun entry => [option, entry.1 ++ "=" ++ entry.2]

def createArguments (params : Params) : List String :=
  ["create"] ++ (params.name.map fun name => ["--name", name]).getD [] ++
    (if params.autoRemove then ["--rm"] else []) ++
    ["--stop-timeout", params.stopTimeout.toNat.repr] ++
    params.ports.flatMap (fun port => ["--publish", publishText port]) ++
    pairOptions "--env" params.env ++
    params.bindMounts.flatMap (fun mount => ["--volume", volumeText mount]) ++
    params.tmpfs.flatMap (fun path => ["--tmpfs", path]) ++
    pairOptions "--label" params.labels ++ [params.image.text] ++ params.command

def containerPath (id : ContainerId) (path : String) : String := id.text ++ ":" ++ path

/-- The arguments that ask whether the engine answers. -/
def versionArguments : List String := ["version", "--format", "\x7b\x7b.Server.Version\x7d\x7d"]

def startArguments (id : ContainerId) : List String := ["start", id.text]

/-- The arguments that stop a container after so many seconds. -/
def stopArguments (id : ContainerId) (seconds : Nat) : List String :=
  ["stop", "--time", seconds.repr, id.text]

def removeArguments (id : ContainerId) (force : Bool) : List String :=
  ["rm"] ++ (if force then ["--force"] else []) ++ [id.text]

def execArguments (id : ContainerId) (command : List String) (env : List (String × String)) :
    List String :=
  ["exec"] ++ env.flatMap (fun entry => ["--env", entry.1 ++ "=" ++ entry.2]) ++ [id.text] ++
    command

def copyArguments (source target : String) : List String := ["cp", source, target]

def logsArguments (id : ContainerId) : List String := ["logs", "--follow", id.text]

def portsArguments (id : ContainerId) : List String :=
  ["ps", "--all", "--no-trunc", "--filter", "id=" ++ id.text, "--format",
    "\x7b\x7b.Ports\x7d\x7d"]

end ContainerFixture.Docker
