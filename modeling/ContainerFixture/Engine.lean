import ContainerFixture.Action
import ContainerFixture.Container.Id
import ContainerFixture.HostFiles
import ContainerFixture.Number.Duration
import ContainerFixture.Params

/-!
# Container engines

What a container engine can be asked, and what it answers. An engine is any state that answers the
calls. An engine that does not know a container says so with `EngineError.notFound`, and callers
rely on it to treat a container that is gone as stopped or removed.
-/

namespace ContainerFixture

open Text

inductive EngineError where
  | notFound (what : String)
  | refused (reason : String)
  /-- Something outside the engine failed, such as a file of the host. -/
  | io (reason : String)
  /-- The engine's listing of ports cannot be read. -/
  | ports (cause : PortError)
deriving DecidableEq, Repr

namespace EngineError

def message : EngineError → String
  | notFound what => s!"not found: {what}"
  | refused reason => s!"engine error: {reason}"
  | io reason => s!"transport I/O error: {reason}"
  | ports cause => s!"unreadable port listing: {cause.message}"

def isNotFound : EngineError → Bool
  | notFound _ => true
  | _ => false

end EngineError

/-- A new container, with what the engine had to say about it. -/
structure Creation where
  id : ContainerId
  warnings : List String
deriving DecidableEq, Repr

structure ExecOutput where
  exitCode : Int
  stdout : String
  stderr : String
deriving DecidableEq, Repr

def ExecOutput.isSuccess (output : ExecOutput) : Bool := output.exitCode = 0

/-- The lines of a stream as they arrive, with times counted from when it was first followed. -/
structure LogFeed where
  /-- The lines and when they arrive, in this order. -/
  arrivals : List (Duration × String)
  /-- When the stream ends; a stream without an end is held open for ever. -/
  ending : Option Duration
deriving DecidableEq, Repr

/-- A stream whose lines all come at one time, and which then ends or is held open. -/
def LogFeed.atOnce (arrival : Duration) (lines : List String) (held : Bool) : LogFeed where
  arrivals := lines.map fun line => (arrival, line)
  ending := if held then none else some arrival

/-- The lines that a reader is given who stops after a line equal to `last`, if one is given. -/
def LogFeed.linesUntil (last : Option String) (feed : LogFeed) : List String :=
  let lines := feed.arrivals.map Prod.snd
  match last with
  | none => lines
  | some last => lines.takeWhile (· ≠ last) ++ if lines.contains last then [last] else []

inductive EngineOperation where
  | create
  | start
  | stop
  | remove
  | exec
  | copyTo
  | copyFrom
  | followLogs
  | portBindings
deriving DecidableEq, Repr

def EngineOperation.text : EngineOperation → String
  | create => "create"
  | start => "start"
  | stop => "stop"
  | remove => "remove"
  | exec => "exec"
  | copyTo => "copy-to"
  | copyFrom => "copy-from"
  | followLogs => "follow-logs"
  | portBindings => "port-bindings"

inductive EngineCall where
  | create (params : Params)
  | start (id : ContainerId)
  | stop (id : ContainerId) (timeout : Duration)
  | remove (id : ContainerId) (force : Bool)
  | exec (id : ContainerId) (env : TextMap) (command : List String)
  | copyTo (id : ContainerId) (localPath remotePath : String)
  | copyFrom (id : ContainerId) (remotePath localPath : String)
  | followLogs (id : ContainerId) (stream : LogStream)
  | portBindings (id : ContainerId)
deriving DecidableEq

namespace EngineCall

/-- What a call answers when it succeeds. -/
@[reducible] def Answer : EngineCall → Type
  | create _ => Creation
  | exec _ _ _ => ExecOutput
  | followLogs _ _ => LogFeed
  | portBindings _ => List PortBinding
  | start _ | stop _ _ | remove _ _ | copyTo _ _ _ | copyFrom _ _ _ => Unit

def operation : EngineCall → EngineOperation
  | create _ => .create
  | start _ => .start
  | stop _ _ => .stop
  | remove _ _ => .remove
  | exec _ _ _ => .exec
  | copyTo _ _ _ => .copyTo
  | copyFrom _ _ _ => .copyFrom
  | followLogs _ _ => .followLogs
  | portBindings _ => .portBindings

/-- The container that a call is addressed to. -/
def container? : EngineCall → Option ContainerId
  | create _ => none
  | start id | stop id _ | remove id _ | exec id _ _ | copyTo id _ _ | copyFrom id _ _
  | followLogs id _ | portBindings id => some id

/-- The rest of a call as text. -/
def detail : EngineCall → String
  | create params => params.image.text
  | start _ | portBindings _ => ""
  | stop _ timeout => s!"{timeout.seconds}s"
  | remove _ force => s!"force={force}"
  | exec _ _ command => " ".intercalate command
  | copyTo _ localPath remotePath => s!"{localPath} -> {remotePath}"
  | copyFrom _ remotePath localPath => s!"{remotePath} -> {localPath}"
  | followLogs _ stream => stream.text

end EngineCall

/-- A state that is an engine, together with the files of the host that it works on. -/
class Engine (E : Type) where
  name : String
  /-- Whether the engine answers at all. -/
  isAvailable : E → Bool × E
  /-- Whether there is something at a path of the host. -/
  pathExists : String → E → Bool
  perform : (call : EngineCall) → Action E EngineError call.Answer

end ContainerFixture
