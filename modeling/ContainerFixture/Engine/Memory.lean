import ContainerFixture.Digest.Blake3
import ContainerFixture.Engine

/-!
# An engine in memory

An engine that keeps its containers in a table. It enters every call in a list before doing anything
else, and any operation can be scripted to fail from then on. A container that removes itself is
gone once it is stopped.
-/

namespace ContainerFixture

/-- How an operation is scripted to fail. -/
inductive ScriptedFailure where
  | notFound
  | refused (reason : String)
deriving DecidableEq, Repr

structure MemoryContainer where
  params : Params
  running : Bool := false
  /-- The listing of its ports, which is empty before its first start. -/
  ports : String := ""

structure MemoryEngine where
  /-- The calls so far, newest first. -/
  called : List EngineCall := []
  table : List (ContainerId × MemoryContainer) := []
  /-- How many containers have been created. -/
  created : Nat := 0
  /-- The next port of the host to give out. -/
  nextPort : UInt16 := 32768
  failures : List (EngineOperation × ScriptedFailure) := []
  warnings : List String := []
  execOutput : Option ExecOutput := none
  logs : LogStream → List String := fun _ => []
  /-- Whether the lines of a stream are sent before its follower goes on, and it then stays open. -/
  holdsLogs : Bool := false
  /-- How long it takes the thread that sends the lines of a stream to come to them. Meanwhile the
  follower goes on. -/
  logDelay : Duration := .ofMicroseconds 50
  files : HostFiles := {}

namespace MemoryEngine

/-! ### Scripting and looking -/

/-- The calls so far, oldest first. -/
def calls (e : MemoryEngine) : List EngineCall := e.called.reverse

/-- Makes every later call of an operation fail in one way. -/
def fail (operation : EngineOperation) (failure : ScriptedFailure) (e : MemoryEngine) :
    MemoryEngine :=
  { e with failures := (operation, failure) :: e.failures }

def clearFailures (e : MemoryEngine) : MemoryEngine := { e with failures := [] }

def warnOnCreate (warning : String) (e : MemoryEngine) : MemoryEngine :=
  { e with warnings := e.warnings ++ [warning] }

/-- Adds a line that every later follow of a stream delivers. -/
def pushLog (stream : LogStream) (line : String) (e : MemoryEngine) : MemoryEngine :=
  { e with logs := fun s => if s = stream then e.logs s ++ [line] else e.logs s }

def count (operation : EngineOperation) (e : MemoryEngine) : Nat :=
  e.called.countP fun call => call.operation = operation

def container? (id : ContainerId) (e : MemoryEngine) : Option MemoryContainer := e.table.lookup id

def isRunning (id : ContainerId) (e : MemoryEngine) : Bool :=
  (e.container? id).any (·.running)

/-! ### Calls -/

/-- Puts a container into the table, in the place of one with the same identifier. -/
def put (id : ContainerId) (container : MemoryContainer) (e : MemoryEngine) : MemoryEngine :=
  { e with table := (id, container) :: e.table.filter (·.1 ≠ id) }

def erase (id : ContainerId) (e : MemoryEngine) : MemoryEngine :=
  { e with table := e.table.filter (·.1 ≠ id) }

/-- Enters a call, which fails if its operation is scripted to. -/
def enter (call : EngineCall) : Action MemoryEngine EngineError Unit := fun e =>
  let outcome := match e.failures.lookup call.operation with
    | none => .ok ()
    | some .notFound => .error (.notFound ((call.container?.map ContainerId.text).getD "object"))
    | some (.refused reason) => .error (.refused reason)
  (outcome, { e with called := call :: e.called })

def find (id : ContainerId) : Action MemoryEngine EngineError MemoryContainer := fun e =>
  match e.container? id with
  | none => (.error (.notFound s!"no such container: {id.text}"), e)
  | some container => (.ok container, e)

/-- The identifier of the container created as number `number`. -/
def idFor (number : Nat) (image : Image) : ContainerId :=
  ⟨Blake3.textDigest s!"mock-container:{number}:{image.text}"⟩

def listingEntry (port : UInt16) (spec : PortSpec) : String :=
  s!"0.0.0.0:{port.toNat}->{spec.containerPort.toNat}/{spec.protocol.text}"

/-- Chooses the ports of the host for some port specs: the one that is asked for, unless it is zero,
or else the next one. Answers the entries of the listing and the next port. -/
def assignPorts : List PortSpec → UInt16 → List String × UInt16
  | [], next => ([], next)
  | spec :: rest, next =>
    let chosen := spec.hostPort.filter (· ≠ 0)
    let (entries, last) := assignPorts rest (if chosen.isSome then next else next + 1)
    (listingEntry (chosen.getD next) spec :: entries, last)

def create (params : Params) : Action MemoryEngine EngineError Creation := fun e =>
  let e := { e with created := e.created + 1 }
  let id := idFor e.created params.image
  (.ok ⟨id, e.warnings⟩, e.put id { params })

def start (id : ContainerId) : Action MemoryEngine EngineError Unit := do
  let container ← find id
  Action.change fun e =>
    let (entries, nextPort) := assignPorts container.params.ports e.nextPort
    { e with nextPort }.put id { container with running := true, ports := ", ".intercalate entries }

def stop (id : ContainerId) : Action MemoryEngine EngineError Unit := do
  let container ← find id
  Action.change fun e =>
    if container.params.autoRemove then e.erase id
    else e.put id { container with running := false }

def remove (id : ContainerId) (force : Bool) : Action MemoryEngine EngineError Unit := do
  let container ← find id
  if container.running && !force then
    Action.fail (.refused s!"cannot remove running container {id.text} without force")
  else Action.change (erase id)

def exec (id : ContainerId) (command : List String) :
    Action MemoryEngine EngineError ExecOutput := do
  let container ← find id
  if container.running then
    let joined := " ".intercalate command
    Action.read fun e => e.execOutput.getD ⟨0, s!"mock-exec: {joined}\n", ""⟩
  else Action.fail (.refused s!"container {id.text} is not running")

def copyTo (id : ContainerId) (localPath : String) : Action MemoryEngine EngineError Unit := do
  let _ ← find id
  if ← Action.read (·.files.pathExists localPath) then pure ()
  else Action.fail (.notFound localPath)

def copyFrom (id : ContainerId) (remotePath localPath : String) :
    Action MemoryEngine EngineError Unit := do
  let _ ← find id
  match ← Action.read (·.files.write localPath s!"mock-copy:{remotePath}\n") with
  | .ok files => Action.change fun e => { e with files }
  | .error cause => Action.fail (.io cause.message)

def feed (stream : LogStream) (e : MemoryEngine) : LogFeed :=
  .atOnce (if e.holdsLogs then ⟨0⟩ else e.logDelay) (e.logs stream) e.holdsLogs

def followLogs (id : ContainerId) (stream : LogStream) :
    Action MemoryEngine EngineError LogFeed := do
  let _ ← find id
  Action.read (feed stream)

def portBindings (id : ContainerId) : Action MemoryEngine EngineError (List PortBinding) := do
  let container ← find id
  Action.ofExcept ((parsePortList container.ports).mapError .ports)

def serve : (call : EngineCall) → Action MemoryEngine EngineError call.Answer
  | .create params => create params
  | .start id => start id
  | .stop id _ => stop id
  | .remove id force => remove id force
  | .exec id _ command => exec id command
  | .copyTo id localPath _ => copyTo id localPath
  | .copyFrom id remotePath localPath => copyFrom id remotePath localPath
  | .followLogs id stream => followLogs id stream
  | .portBindings id => portBindings id

def perform (call : EngineCall) : Action MemoryEngine EngineError call.Answer := do
  enter call
  serve call

instance : Engine MemoryEngine where
  name := "mock"
  isAvailable e := (true, e)
  pathExists path e := e.files.pathExists path
  perform := perform

end MemoryEngine

end ContainerFixture
