import ContainerFixture.CommandLine.Run

/-!
# The program

The outer layer of the command line: it looks up the files that an invocation names, runs it, prints
what it printed and writes the files that it wrote. It starts no other program, so that it finds no
client of docker, and the engine to use here is the one in memory.
-/

namespace ContainerFixture.CommandLine

/-- A path and the directories above it. -/
def withParents (path : String) : List String :=
  go (path.length + 1) path
where
  go : Nat → String → List String
    | 0, _ => []
    | fuel + 1, path =>
      match HostPath.parent path with
      | some directory => path :: go fuel directory
      | none => [path]

def namedPaths (manifest : ResolvedManifest) : List String :=
  (manifest.preStart.map fun | .copy hostPath _ => hostPath) ++
    manifest.postStart.filterMap fun
      | .copyOut _ hostPath => some hostPath
      | .awaitLog _ _ _ | .exec _ _ => none

def Command.manifestPath? : Command → Option String
  | up path | exec path _ | check path | doctor path => some path
  | ports _ | image _ | version => none

def pathOf : Location → String
  | "/" :: names => "/" ++ "/".intercalate names
  | names => "/".intercalate names

/-- What is at a path: a file with its text, or a directory. -/
def lookUp (path : String) : IO (Option (String × String)) := do
  try
    let bytes ← IO.FS.readBinFile path
    return some (path, Text.decodeLossy bytes.toList)
  catch _ =>
    try
      let _ ← IO.FS.Handle.mk path .read
      return some (path ++ "/", "")
    catch _ => return none

def lookUpAll (paths : List String) : IO HostFiles := do
  let found ← (paths.flatMap withParents).filterMapM lookUp
  return .ofList found

/-- The files that an invocation can come upon. -/
def filesFor (invocation : Invocation) : IO HostFiles := do
  match invocation.command.manifestPath? with
  | none => return {}
  | some path =>
    let files ← lookUpAll [path]
    match Manifest.load files path with
    | .ok manifest => lookUpAll (path :: namedPaths manifest)
    | .error _ => return files

/-- Runs an invocation on the host, and answers the exit status. -/
def perform (invocation : Invocation) : IO UInt32 := do
  let files ← filesFor invocation
  let clientName ← IO.getEnv "BERTH_DOCKER"
  let host : Host := { files, clientName, client := { installed := false } }
  let (outcome, host) := run invocation host
  for (location, content) in host.files.contents do
    if files.contentsAt? location ≠ some content then
      IO.FS.writeFile (pathOf location) content
  IO.print outcome.stdout
  IO.eprint outcome.stderr
  return outcome.status.toUInt32

end ContainerFixture.CommandLine

def main (arguments : List String) : IO UInt32 := do
  match ContainerFixture.CommandLine.Invocation.read? arguments with
  | some invocation => ContainerFixture.CommandLine.perform invocation
  | none =>
    IO.eprintln "error: the arguments are not understood"
    return 2
