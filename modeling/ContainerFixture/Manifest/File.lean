import ContainerFixture.HostFiles
import ContainerFixture.Manifest.Reader

/-!
# Manifest files

A manifest is read from a file and resolved against the directory that the file is in.
-/

namespace ContainerFixture.Manifest

inductive LoadError where
  | unreadable (cause : FileError)
  | unparsable (cause : ReadError)
  | invalid (cause : ManifestError)
deriving DecidableEq, Repr

def LoadError.message : LoadError → String
  | unreadable cause => s!"failed to read manifest file: {cause.message}"
  | unparsable .notToml => "failed to parse manifest: "
  | unparsable (.misfit cause) => s!"failed to parse manifest: {misfitMessage cause}"
  | invalid cause => cause.message

/-- The directory against which the manifest in a file is resolved. -/
def baseDirectory (path : String) : String := (HostPath.parent path).getD "."

def load (files : HostFiles) (path : String) : Except LoadError ResolvedManifest := do
  let source ← (files.read path).mapError .unreadable
  let manifest ← (read source).mapError .unparsable
  (manifest.resolve (baseDirectory path)).mapError .invalid

end ContainerFixture.Manifest
