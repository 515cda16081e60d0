import ContainerFixture.Text.Blank
import ContainerFixture.Text.Split

/-!
# Image references

An image reference is written `[registry/][repository/]name[:tag]` or
`[registry/][repository/]name@algorithm:hex`. The first component is a registry when a slash
follows it and it holds a dot or a colon or is `localhost`; a registry without a repository stands
for the repository `library`. `Image.parse` reads a reference, `Image.text` writes it.
-/
namespace ContainerFixture

open Text

/-- What follows the name: a tag, which can be moved, or a digest of the content. -/
inductive Version where
  | tag (name : String)
  | digest (algorithm hex : String)
  deriving DecidableEq, Repr

structure Image where
  registry : Option String
  repository : Option String
  name : String
  version : Option Version
  deriving DecidableEq, Repr

inductive ImageError where
  | empty
  | emptyComponent (reference : String)
  | invalidName (name : String)
  | invalidRepository (repository : String)
  | invalidTag (tag : String)
  | invalidDigest (digest : String)
  deriving DecidableEq, Repr

def ImageError.message : ImageError → String
  | .empty => "image reference must not be empty"
  | .emptyComponent reference =>
    "image reference '" ++ reference ++ "' has an empty path component"
  | .invalidName name => "invalid image name '" ++ name ++ "': expected [a-z0-9._-]"
  | .invalidRepository repository =>
    "invalid repository '" ++ repository ++ "': expected [a-z0-9._-/]"
  | .invalidTag tag => "invalid tag '" ++ tag ++ "': expected 1-128 of [A-Za-z0-9_.-]"
  | .invalidDigest digest => "invalid digest '" ++ digest ++ "': expected <algorithm>:<hex>"

namespace Image

def defaultRepository : String := "library"

/-! ### The alphabet -/

def isComponentChar (c : Char) : Bool := c.isLower || c.isDigit || c ∈ ['.', '_', '-']

def isTagChar (c : Char) : Bool := c.isAlphanum || c ∈ ['_', '.', '-']

def isAlgorithmChar (c : Char) : Bool := c.isLower || c.isDigit || c ∈ ['+', '.', '_', '-']

def isHexChar (c : Char) : Bool := c.isDigit || ('a' ≤ c && c ≤ 'f') || ('A' ≤ c && c ≤ 'F')

def isComponent (cs : List Char) : Bool := !cs.isEmpty && cs.all isComponentChar

/-- A tag: its characters are of one byte each, so their number is its size. -/
def isTag (cs : List Char) : Bool := !cs.isEmpty && cs.all isTagChar && cs.length ≤ 128

def isAlgorithm (cs : List Char) : Bool := !cs.isEmpty && cs.all isAlgorithmChar

def isHex (cs : List Char) : Bool := !cs.isEmpty && cs.all isHexChar

def isRegistry (cs : List Char) : Bool := '.' ∈ cs || ':' ∈ cs || cs = "localhost".toList

/-! ### Reading -/

/-- A digest, after its at sign. -/
def readDigest (cs : List Char) : Except ImageError Version :=
  match atFirst ':' cs with
  | some (algorithm, hex) =>
    if isAlgorithm algorithm && isHex hex then
      .ok (.digest (String.ofList algorithm) (String.ofList hex))
    else .error (.invalidDigest (String.ofList cs))
  | none => .error (.invalidDigest (String.ofList cs))

def readTag (cs : List Char) : Except ImageError Version :=
  if isTag cs then .ok (.tag (String.ofList cs)) else .error (.invalidTag (String.ofList cs))

/-- The path of a reference and its version. The first at sign starts a digest; without one, a
colon after the last slash starts a tag, and earlier colons belong to a registry. -/
def splitVersion (cs : List Char) : Except ImageError (List Char × Option Version) :=
  match atFirst '@' cs with
  | some (path, digest) => (readDigest digest).map fun version => (path, some version)
  | none =>
    match atLast ':' cs with
    | some (path, tag) =>
      if '/' ∈ tag then .ok (cs, none)
      else (readTag tag).map fun version => (path, some version)
    | none => .ok (cs, none)

/-- The registry at the front of a path, and the components after it. -/
def splitRegistry : List (List Char) → Option (List Char) × List (List Char)
  | first :: second :: others =>
    if isRegistry first then (some first, second :: others) else (none, first :: second :: others)
  | components => (none, components)

/-- The repository of a reference, from the components between registry and name. -/
def repositoryOf (registry : Option (List Char)) (components : List (List Char)) :
    Except ImageError (Option String) :=
  let joined := String.ofList (['/'].intercalate components)
  if components.isEmpty then .ok (registry.map fun _ => defaultRepository)
  else if components.all isComponent then .ok (some joined)
  else .error (.invalidRepository joined)

/-- Reads a reference that has no blanks around it. -/
def parseTrimmed (cs : List Char) : Except ImageError Image := do
  if cs.isEmpty then throw .empty
  let (path, version) ← splitVersion cs
  let components := pieces '/' path
  if components.any List.isEmpty then throw (.emptyComponent (String.ofList cs))
  let (registry, rest) := splitRegistry components
  match rest.getLast? with
  | none => throw (.emptyComponent (String.ofList cs))
  | some name =>
    if !isComponent name then throw (.invalidName (String.ofList name))
    let repository ← repositoryOf registry rest.dropLast
    return ⟨registry.map String.ofList, repository, String.ofList name, version⟩

/-- Reads an image reference; blanks around it do not count. -/
def parse (s : String) : Except ImageError Image := parseTrimmed (trimBlank s.toList)

/-- The reference with another tag in place of its version. -/
def withTag (image : Image) (tag : String) : Except ImageError Image :=
  (readTag tag.toList).map fun version => { image with version := some version }

/-! ### Writing -/

/-- A version with the sign that starts it. -/
def versionText : Version → String
  | .tag name => ":" ++ name
  | .digest algorithm hex => "@" ++ algorithm ++ ":" ++ hex

/-- The written form of a reference. -/
def text (image : Image) : String :=
  (image.registry.map (· ++ "/")).getD "" ++ (image.repository.map (· ++ "/")).getD "" ++
    image.name ++ (image.version.map versionText).getD ""

/-- The tag of a reference that has one. -/
def tag? (image : Image) : Option String :=
  match image.version with
  | some (.tag name) => some name
  | _ => none

end Image

end ContainerFixture
