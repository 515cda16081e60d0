import ContainerFixture.Container.Plan
import ContainerFixture.Manifest.File
import ContainerFixture.Provider.Group

/-!
# Sessions

What happens while a command runs on an engine: the provider of the container, and what has been
printed. A command ends with an exit status or with a failure, and whatever was provided and not
torn down by then is torn down when the process ends.
-/

namespace ContainerFixture.CommandLine

open Manifest (LoadError)

inductive Failure where
  | manifest (cause : LoadError)
  /-- A pattern of the manifest, or anything else that keeps its plan from being made. -/
  | plan (cause : ContainerError)
  | unknownEngine (cause : EngineError)
  | provisioning (cause : LifecycleError ContainerError)
  | portListing (cause : ContainerError)
  | execution (cause : ContainerError)
  | teardown (cause : LifecycleError ContainerError)
  | badListing (cause : PortError)
  | badImage (cause : ImageError)
deriving DecidableEq, Repr

/-- Whether a provisioning failed because the engine refused something. -/
def isEngineFault (cause : LifecycleError ContainerError) : Bool :=
  match cause.commissionFailure? with
  | some ⟨_, .engine _ _⟩ => true
  | _ => false

def Failure.message : Failure → String
  | manifest cause => s!"manifest error: {cause.message}"
  | plan .invalidPattern => s!"manifest error: {ContainerError.invalidPattern.message}"
  | plan cause => cause.message
  | unknownEngine cause => s!"engine error: {cause.message}"
  | provisioning cause =>
    let text := cause.message ContainerError.message
    if isEngineFault cause then s!"engine error: {text}" else text
  | portListing cause | execution cause => s!"engine error: {cause.message}"
  | teardown cause => s!"teardown failed: {cause.message ContainerError.message}"
  | badListing cause => s!"invalid port listing: {cause.message}"
  | badImage cause => s!"invalid image reference: {cause.message}"

def success : Nat := 0
def generalFailure : Nat := 1
def manifestFailure : Nat := 2
def engineFailure : Nat := 3

/-- The exit status that goes with the text of a failure. -/
def statusOf (message : String) : Nat :=
  if "manifest error:".toList.isPrefixOf message.toList then manifestFailure
  else if "engine error:".toList.isPrefixOf message.toList then engineFailure
  else generalFailure

structure Outcome where
  status : Nat
  stdout : String
  stderr : String
deriving DecidableEq, Repr

/-- What was printed, and how the command went. -/
def Outcome.ofResult (stdout stderr : String) : Except Failure Nat → Outcome
  | .ok status => ⟨status, stdout, stderr⟩
  | .error failure =>
    ⟨statusOf failure.message, stdout, stderr ++ s!"error: {failure.message}\n"⟩

/-- A command in the middle of its run on an engine. -/
structure Session (E : Type) where
  group : ProviderGroup (Bench E) ContainerError Container
  stdout : String := ""
  stderr : String := ""

namespace Session

variable {E : Type}

/-- A session on an engine with one provider, which is torn down at the end of the process at the
latest. -/
def atStart (engine : E) (stages : List (ContainerStage E)) : Session E where
  group := { world := { engine },
             providers := [{ lifecycle := { stages }, scope := .global .process }] }

def print (text : String) : Action (Session E) Failure Unit :=
  Action.change fun s => { s with stdout := s.stdout ++ text }

def printLine (line : String) : Action (Session E) Failure Unit := print (line ++ "\n")

def note (text : String) : Action (Session E) Failure Unit :=
  Action.change fun s => { s with stderr := s.stderr ++ text }

def provide : Action (Session E) Failure Container := fun s =>
  let (provision, group) := s.group.provide 0
  let s := { s with group }
  match provision.get with
  | .ok (some c) => (.ok c, s)
  | .ok none => (.error (.plan .noContainer), s)
  | .error cause => (.error (.provisioning cause), s)

def finishNow : Action (Session E) (LifecycleError ContainerError) Unit := fun s =>
  let (outcome, group) := s.group.finishNow 0
  (outcome, { s with group })

def onBench {α : Type} (step : Action (Bench E) ContainerError α) :
    Action (Session E) ContainerError α :=
  step.within (fun s => s.group.world) fun world s => { s with group := { s.group with world } }

/-- Runs a command and then what is left to do at the end of the process. -/
def conclude (command : Action (Session E) Failure Nat) (s : Session E) : Outcome × E :=
  let (result, s) := command s
  let (_, group) := s.group.fire .process
  (Outcome.ofResult s.stdout s.stderr result, group.world.engine)

end Session

end ContainerFixture.CommandLine
