import ContainerFixture.Docker.Arguments
import ContainerFixture.Engine
import ContainerFixture.Text.Lines
import ContainerFixture.Text.Split
import ContainerFixture.Text.Utf8

/-!
# The docker client

An engine reached through its command line client. Every call is one run of the client, whose
outcome is read off its exit status and what it printed. What the client will answer is a list of
responses, one for each run; after the last it prints nothing and succeeds.
-/

namespace ContainerFixture.Docker

open Text

structure Response where
  stdout : List UInt8 := []
  stderr : List UInt8 := []
  /-- The exit status, which a client killed by a signal does not have. -/
  status : Option Nat := some 0

namespace Response

def succeeded (response : Response) : Bool := response.status = some 0

def errorText (response : Response) : String := decodeLossy response.stderr

def outputText (response : Response) : String := decodeLossy response.stdout

end Response

/-- The client, its answers still to come, and the files of the host. -/
structure Client where
  /-- Whether the client can be run at all. -/
  installed : Bool := true
  responses : List Response := []
  /-- The arguments of the runs so far, newest first. -/
  invoked : List (List String) := []
  files : HostFiles := {}
  /-- How long a client that follows a stream takes to begin and to print it. -/
  logDelay : Duration := .ofMilliseconds 1

def mentions (part text : String) : Bool := occurs part.toList text.toList

def failureOf (errorText : String) : EngineError :=
  let reason := trim errorText
  if mentions "No such container" reason || mentions "No such object" reason then .notFound reason
  else .refused reason

/-- The file that is run as the client: the one named by the environment, unless that is empty. -/
def binary (environment : Option String) : String :=
  (environment.filter (!·.isEmpty)).getD "docker"

namespace Client

/-- The arguments of the runs so far, oldest first. -/
def invocations (client : Client) : List (List String) := client.invoked.reverse

/-- Runs the client, whatever its exit status. -/
def invoke (arguments : List String) : Action Client EngineError Response := fun client =>
  if arguments.any (·.toList.contains '\x00') then
    (.error (.io "nul byte found in provided data"), client)
  else if !client.installed then (.error (.io FileError.notFound.message), client)
  else
    (.ok (client.responses.headD {}),
      { client with responses := client.responses.tail, invoked := arguments :: client.invoked })

/-- Runs the client, which has to succeed. -/
def run (arguments : List String) : Action Client EngineError Response := do
  let response ← invoke arguments
  if response.succeeded then pure response else Action.fail (failureOf response.errorText)

def create (params : Params) : Action Client EngineError Creation := do
  let response ← run (createArguments params)
  let id := trim response.outputText
  if id.isEmpty then Action.fail (.refused "docker create printed no container id")
  else
    let warnings := ((lines response.errorText).map trim).filter (!·.isEmpty)
    pure ⟨⟨id⟩, warnings⟩

def command (arguments : List String) : Action Client EngineError Unit := do
  let _ ← run arguments
  pure ()

/-- Runs a command in a container. The exit status of the client is that of the command, except
that 125 to 127 may also tell that there was no container to run it in. -/
def exec (id : ContainerId) (env : TextMap) (command : List String) :
    Action Client EngineError ExecOutput := do
  let response ← invoke (execArguments id command env.entries)
  let errors := response.errorText
  match response.status with
  | none => Action.fail (.refused s!"docker exec was killed by a signal: {trim errors}")
  | some status =>
    if 125 ≤ status && status ≤ 127 && mentions "No such container" errors then
      Action.fail (failureOf errors)
    else pure ⟨status, response.outputText, errors⟩

/-- Follows a stream up to its end, or to the first line that is not text. -/
def followLogs (id : ContainerId) (stream : LogStream) : Action Client EngineError LogFeed := do
  let response ← invoke (logsArguments id)
  let bytes := match stream with
    | .stdout => response.stdout
    | .stderr => response.stderr
  let readable := ((byteLines bytes).map decode?).takeWhile Option.isSome
  Action.read fun client => .atOnce client.logDelay (readable.filterMap fun line => line) false

def portBindings (id : ContainerId) : Action Client EngineError (List PortBinding) := do
  let response ← run (portsArguments id)
  match lines response.outputText with
  | [] => Action.fail (.notFound s!"no such container: {id.text}")
  | listing :: _ => Action.ofExcept ((parsePortList listing).mapError .ports)

def perform : (call : EngineCall) → Action Client EngineError call.Answer
  | .create params => create params
  | .start id => command (startArguments id)
  | .stop id timeout => command (stopArguments id timeout.seconds)
  | .remove id force => command (removeArguments id force)
  | .exec id env arguments => exec id env arguments
  | .copyTo id localPath remotePath =>
    command (copyArguments localPath (containerPath id remotePath))
  | .copyFrom id remotePath localPath =>
    command (copyArguments (containerPath id remotePath) localPath)
  | .followLogs id stream => followLogs id stream
  | .portBindings id => portBindings id

/-- Whether the client can be run and reaches its engine. -/
def isAvailable (client : Client) : Bool × Client :=
  match invoke versionArguments client with
  | (.ok response, client) => (response.succeeded, client)
  | (.error _, client) => (false, client)

instance : Engine Client where
  name := "docker"
  isAvailable := isAvailable
  pathExists path client := client.files.pathExists path
  perform := perform

end Client

end ContainerFixture.Docker
