import ContainerFixture.Manifest.Codec
import ContainerFixture.Toml.Reader

/-!
# Reading manifests

A manifest is written in TOML. A text that is not TOML, and a document that does not fit the
manifest, are told apart.
-/
namespace ContainerFixture.Manifest

open Document

inductive ReadError where
  /-- The text is not TOML. -/
  | notToml
  /-- The document is no manifest. -/
  | misfit (cause : Misfit)
  deriving DecidableEq, Repr

/-- The wording of what does not fit a manifest. -/
def misfitMessage (cause : Misfit) : String := cause.message .positional

def read (source : String) : Except ReadError Manifest :=
  match Toml.read? source with
  | none => .error .notToml
  | some document => (decode .toml document).mapError .misfit

end ContainerFixture.Manifest
