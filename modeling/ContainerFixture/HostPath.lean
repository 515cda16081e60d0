/-!
# Paths on the host

Paths are joined and taken apart as texts; nothing is normalised that the operations do not name. A
path is Unicode text, as it stands in manifests and arguments. Names of files that are no such text,
which a host may have as well, are left out.
-/
namespace ContainerFixture.HostPath

def isAbsolute (path : String) : Bool := path.toList.head? = some '/'

/-- A path below a directory: a slash stands between the two unless the directory is empty or ends
in one. An absolute path stands for itself. -/
def join (directory path : String) : String :=
  if isAbsolute path then path
  else if directory.isEmpty || directory.toList.getLast? = some '/' then directory ++ path
  else directory ++ "/" ++ path

/-- A path without the slashes, and the components that are one dot, at its end. The text is given
in reverse, and its first character in order is never dropped. -/
def trimmedBack : List Char → List Char
  | '/' :: c :: rest => trimmedBack (c :: rest)
  | '.' :: '/' :: rest => if rest.isEmpty then ['/'] else trimmedBack ('/' :: rest)
  | back => back

/-- The directory that holds what a path names, or nothing when the path names the root or
nothing. -/
def parent (path : String) : Option String :=
  let back := trimmedBack path.toList.reverse
  if back = [] ∨ back = ['/'] then none
  else
    match back.dropWhile (· ≠ '/') with
    | [] => some ""
    | directory => some (String.ofList (trimmedBack directory).reverse)

end ContainerFixture.HostPath
