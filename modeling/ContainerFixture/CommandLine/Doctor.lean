import ContainerFixture.CommandLine.Session
import ContainerFixture.Document.Json
import ContainerFixture.Engine.Kind

/-!
# The doctor

Checks that the chosen engine and the manifest can be used, without using them.
-/

namespace ContainerFixture.CommandLine

open Document

inductive CheckStatus where
  | pass
  | fail
  | warn
  | info
deriving DecidableEq, Repr

namespace CheckStatus

def text : CheckStatus → String
  | pass => "pass"
  | fail => "fail"
  | warn => "warn"
  | info => "info"

/-- The sign in front of a finding. -/
def sign : CheckStatus → String
  | pass => "✓"
  | fail => "✗"
  | warn => "⚠"
  | info => "ℹ"

end CheckStatus

/-- What one check found. -/
structure Finding where
  check : String
  status : CheckStatus
  message : String
deriving DecidableEq, Repr

namespace Finding

def healthy (findings : List Finding) : Bool := !findings.any (·.status = .fail)

def encode (finding : Finding) : Value :=
  .table [("name", .text finding.check), ("status", .text finding.status.text),
    ("message", .text finding.message)]

/-- The findings as a document. -/
def document (findings : List Finding) : Value :=
  .table [("healthy", .flag (healthy findings)), ("checks", .list (findings.map encode))]

def report (findings : List Finding) : String :=
  let lines := findings.map fun finding => s!"  {finding.status.sign} {finding.message}\n"
  let verdict := if healthy findings then "All checks passed."
    else "Some checks failed. See above for details."
  "berth doctor\n\n" ++ String.join lines ++ "\n" ++ verdict ++ "\n"

end Finding

def engineFinding (name : String) (reachable : Bool) : Finding :=
  if reachable then ⟨"transport", .pass, s!"Transport '{name}' is reachable"⟩
  else ⟨"transport", .fail, s!"Transport '{name}' is not reachable"⟩

def clientFinding (named : Option String) : Finding :=
  let message := match named with
    | some file => s!"Using {file} (from BERTH_DOCKER)"
    | none => "Using docker from PATH (set BERTH_DOCKER to override)"
  ⟨"docker_binary", .info, message⟩

/-- The sources of a manifest that are not there to be copied. -/
def sourceFindings (files : HostFiles) (manifest : ResolvedManifest) : List Finding :=
  manifest.preStart.filterMap fun
    | .copy hostPath _ =>
      if files.pathExists hostPath then none
      else some ⟨"copy_source", .warn, s!"Copy source {hostPath} does not exist yet"⟩

/-- What the plan of a manifest comes to, given the number of its stages. -/
def planFinding : Except ContainerError Nat → Finding
  | .ok count => ⟨"stages", .info, s!"{count} stages planned"⟩
  | .error cause => ⟨"stages", .fail, (Failure.plan cause).message⟩

/-- The findings about a manifest. `stages` counts the stages of its plan, and there is no engine to
plan for when it is missing. -/
def manifestFindings (files : HostFiles) (path : String)
    (stages : Option (ResolvedManifest → Except ContainerError Nat)) : List Finding :=
  if files.pathExists path then
    match Manifest.load files path with
    | .error cause => [⟨"manifest", .fail, (Failure.manifest cause).message⟩]
    | .ok manifest =>
      ⟨"manifest", .pass, s!"Manifest {path} is valid"⟩ :: sourceFindings files manifest ++
        (stages.map fun count => planFinding (count manifest)).toList
  else [⟨"manifest", .info, s!"No manifest at {path}"⟩]

end ContainerFixture.CommandLine
