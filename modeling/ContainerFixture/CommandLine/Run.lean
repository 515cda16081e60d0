import ContainerFixture.CommandLine.Doctor
import ContainerFixture.CommandLine.Invocation
import ContainerFixture.Container.Codec
import ContainerFixture.Docker.Client
import ContainerFixture.Engine.Memory
import ContainerFixture.Manifest.Codec

/-!
# Running commands

What each command of the program does and prints.
-/

namespace ContainerFixture.CommandLine

open Document Text

/-- A document as the program prints it, with the entries of every table in order. -/
def printed (v : Value) : String := Json.pretty v.sorted ++ "\n"

/-! ### Commands without an engine -/

def portLine (binding : PortBinding) : String :=
  let port := s!"{binding.containerPort.toNat}/{binding.protocol.text}"
  match binding.host with
  | some address => s!"{port} -> {address.text}\n"
  | none => s!"{port} (not published)\n"

def ports (listing : String) (json : Bool) : Except Failure String := do
  let bindings ← (parsePortList listing).mapError .badListing
  if json then return Json.pretty (.list (bindings.map PortBinding.encode)) ++ "\n"
  if bindings.isEmpty then return "no ports\n"
  return String.join (bindings.map portLine)

def image (reference : String) (json : Bool) : Except Failure String := do
  let image ← (Image.parse reference).mapError .badImage
  let digest := match image.version with
    | some (.digest algorithm hex) => some s!"{algorithm}:{hex}"
    | _ => none
  if json then
    return printed (.table [("reference", .text image.text),
      ("registry", .ofOption .text image.registry),
      ("repository", .ofOption .text image.repository), ("name", .text image.name),
      ("tag", .ofOption .text image.tag?), ("digest", .ofOption .text digest)])
  let orDash (part : Option String) : String := part.getD "-" ++ "\n"
  return "reference:  " ++ image.text ++ "\nregistry:   " ++ orDash image.registry ++
    "repository: " ++ orDash image.repository ++ "name:       " ++ image.name ++
    "\ntag:        " ++ orDash image.tag? ++ "digest:     " ++ orDash digest

def numberedLines (names : List String) : String :=
  String.join (names.mapIdx fun i name => s!"  {i}. {name}\n")

/-- Shows a manifest and the stages of its plan. -/
def check (manifest : ResolvedManifest) (stages : List String) (json : Bool) : String :=
  let params := manifest.params
  if json then printed (.table [("manifest", manifest.encode), ("stages", .texts stages)])
  else
    let name := match params.name with
      | some name => s!"name:         {name}\n"
      | none => ""
    s!"image:        {params.image.text}\n" ++ name ++
      s!"command type: {params.commandType.text}\nauto-remove:  {params.autoRemove}\n" ++
      s!"stop timeout: {params.stopTimeout.toNat}s\nstages:\n" ++ numberedLines stages

/-! ### Commands on an engine -/

variable {E : Type} [Engine E]

/-- What is shown of a container that is up. -/
def describe (c : Container) (state : ContainerState) (bindings : List PortBinding) (json : Bool) :
    String :=
  if json then
    printed (.table [("container", c.encode), ("state", .text state.text),
      ("ports", .list (bindings.map PortBinding.encode))])
  else
    let name := match c.name with
      | some name => s!"name:   {name}\n"
      | none => ""
    s!"id:     {c.id.text}\n" ++ name ++ s!"image:  {c.image.text}\nstate:  {state.text}\n" ++
      String.join (c.warnings.map fun warning => s!"warn:   {warning}\n") ++
      String.join (bindings.map fun binding => s!"port:   {binding.text}\n")

/-- Brings a container up, shows it, waits until there is no more input and tears it down. -/
def up (json : Bool) : Action (Session E) Failure Nat := do
  let c ← Session.provide
  let bindings ← (Session.onBench (Bench.portBindings c)).mapError .portListing
  let state ← Action.read fun s => s.group.world.state c
  Session.print (describe c state bindings json)
  if json then
    Session.finishNow.mapError .teardown
  else
    Session.note "close stdin (Ctrl-D) to tear down, or interrupt with Ctrl-C\n"
    Session.finishNow.mapError .teardown
    Session.printLine s!"container {c.id.short} torn down"
  pure success

/-- The exit status of a command as that of a program, which has eight bits. -/
def programStatus (exitCode : Int) : Nat :=
  if 0 ≤ exitCode && exitCode ≤ 255 then exitCode.toNat else generalFailure

/-- Brings a container up, runs a command in it and tears it down, before anything is said about how
either went. -/
def exec (command : List String) (json : Bool) : Action (Session E) Failure Nat := do
  let c ← Session.provide
  let output ← (Session.onBench (Bench.exec c .empty command)).attempt
  let teardown ← Session.finishNow.attempt
  let output ← Action.ofExcept (output.mapError .execution)
  Action.ofExcept (teardown.mapError .teardown)
  if json then
    Session.print (printed (.table [("container", .text c.id.text), ("command", .texts command),
      ("exit_code", .integer output.exitCode), ("stdout", .text output.stdout),
      ("stderr", .text output.stderr)]))
  else
    Session.print output.stdout
    Session.note output.stderr
  pure (programStatus output.exitCode)

def stagesOf (E : Type) [Engine E] (manifest : ResolvedManifest) :
    Except ContainerError (List (ContainerStage E)) :=
  return (← manifest.plan?).stages

def doctor (files : HostFiles) (named : Option String) (path : String) (engine : E) :
    List Finding × E :=
  let name := Engine.name E
  let (reachable, engine) := Engine.isAvailable engine
  let client := if name = EngineKind.docker.text then [clientFinding named] else []
  let stages (manifest : ResolvedManifest) : Except ContainerError Nat :=
    return (← stagesOf E manifest).length
  (engineFinding name reachable :: client ++ manifestFindings files path (some stages), engine)

def findingsOutcome (findings : List Finding) (json : Bool) : Outcome where
  status := if Finding.healthy findings then success else generalFailure
  stdout := if json then printed (Finding.document findings) else Finding.report findings
  stderr := ""

/-- Runs a command that works on a manifest, with this engine. -/
def runOn (command : Command) (json : Bool) (manifest : ResolvedManifest) (engine : E) :
    Outcome × E :=
  match stagesOf E manifest with
  | .error cause => (Outcome.ofResult "" "" (.error (.plan cause)), engine)
  | .ok stages =>
    match command with
    | .up _ => Session.conclude (up json) (.atStart engine stages)
    | .exec _ arguments => Session.conclude (exec arguments json) (.atStart engine stages)
    | _ => (⟨success, check manifest (stages.map Stage.name) json, ""⟩, engine)

/-! ### The program -/

/-- What the program finds around it. -/
structure Host where
  files : HostFiles := {}
  /-- The value of the variable that names the client of docker. -/
  clientName : Option String := none
  /-- The client of docker. -/
  client : Docker.Client := {}

/-- Runs a command on the engine with a name. What it needs of the host is the same for all. -/
def onEngine (kind : EngineKind) (host : Host)
    (run : {E : Type} → [Engine E] → E → Outcome × E) : Outcome × Host :=
  match kind with
  | .docker =>
    let (outcome, client) := run { host.client with files := host.files }
    (outcome, { host with client, files := client.files })
  | .memory =>
    let engine : MemoryEngine := { files := host.files }
    let (outcome, engine) := run engine
    (outcome, { host with files := engine.files })

/-- Runs a command that works on a manifest file. The manifest is read first, then the engine is
chosen. -/
def onManifest (invocation : Invocation) (path : String) (host : Host) : Outcome × Host :=
  let failed (failure : Failure) : Outcome × Host := (Outcome.ofResult "" "" (.error failure), host)
  match Manifest.load host.files path with
  | .error cause => failed (.manifest cause)
  | .ok manifest =>
    match EngineKind.ofText invocation.engine with
    | .error cause => failed (.unknownEngine cause)
    | .ok kind =>
      onEngine kind host fun engine => runOn invocation.command invocation.json manifest engine

def run (invocation : Invocation) (host : Host) : Outcome × Host :=
  let shown (text : Except Failure String) : Outcome × Host :=
    let outcome := match text with
      | .ok text => ⟨success, text, ""⟩
      | .error failure => Outcome.ofResult "" "" (.error failure)
    (outcome, host)
  match invocation.command with
  | .up path | .exec path _ | .check path => onManifest invocation path host
  | .ports listing => shown (ports listing invocation.json)
  | .image reference => shown (image reference invocation.json)
  | .version => shown (.ok "berth 0.1.0\n")
  | .doctor path =>
    match EngineKind.ofText invocation.engine with
    | .ok kind =>
      onEngine kind host fun engine =>
        let (findings, engine) := doctor host.files host.clientName path engine
        (findingsOutcome findings invocation.json, engine)
    | .error cause =>
      let findings := ⟨"transport", .fail, (Failure.unknownEngine cause).message⟩ ::
        manifestFindings host.files path none
      (findingsOutcome findings invocation.json, host)

end ContainerFixture.CommandLine
