import ContainerFixture.HostPath
import ContainerFixture.Text.Split

/-!
# Files of the host

The files and directories that are known, below a working directory and below the root. A path is
followed component by component: every component but the last has to name a directory, and so has
the last when a slash follows it, unless it is to be created: what a path names with a slash at its
end can only be a directory. The directories above the working directory exist; nothing else is
known of them, up to the root, where there is what every host has.
-/

namespace ContainerFixture

/-- Why a file could not be read or written. -/
inductive FileError where
  | notFound
  | notDirectory
  | isDirectory
  | nameTooLong
  | nulByte
deriving DecidableEq, Repr

def FileError.message : FileError → String
  | notFound => "No such file or directory (os error 2)"
  | notDirectory => "Not a directory (os error 20)"
  | isDirectory => "Is a directory (os error 21)"
  | nameTooLong => "File name too long (os error 36)"
  | nulByte => "file name contained an unexpected NUL byte"

/-- The names that lead from the working directory to a file or a directory; below the root, a slash
stands first, and above the working directory one `..` for every step up. -/
abbrev Location := List String

/-- Where a path begins. -/
def Location.start (path : String) : Location := if HostPath.isAbsolute path then ["/"] else []

inductive PathTarget where
  | file (location : Location)
  | directory (location : Location)
  /-- Nothing yet, in a directory that exists. -/
  | vacant (location : Location)
deriving DecidableEq, Repr

inductive PathUse where
  | find
  /-- To write a file, which arises if there is none. -/
  | create
deriving DecidableEq, Repr

/-- The files that are known. -/
structure HostFiles where
  directories : List Location := []
  contents : List (Location × String) := []

namespace HostFiles

/-- The directories that the root has on every host. -/
def standardDirectories : List String :=
  ["bin", "dev", "etc", "home", "lib", "media", "mnt", "opt", "proc", "root", "run", "sbin", "srv",
    "sys", "tmp", "usr", "var"]

def isDirectory (files : HostFiles) (location : Location) : Bool :=
  location.all (· = "..") ||
    match location with
    | ["/"] => true
    | ["/", name] => standardDirectories.contains name || files.directories.contains location
    | _ => files.directories.contains location

/-- The file that is always empty: what is written to it is gone. -/
def emptyFile : Location := ["/", "dev", "null"]

/-- The files that every host has. -/
def standardFiles : List (Location × String) :=
  [(emptyFile, ""), (["/", "etc", "passwd"], "root:x:0:0:root:/root:/bin/sh\n"),
    (["/", "etc", "hosts"], "127.0.0.1 localhost\n"), (["/", "etc", "hostname"], "localhost\n")]

def contentsAt? (files : HostFiles) (location : Location) : Option String :=
  (files.contents.lookup location).or (standardFiles.lookup location)

/-- How many directories lie on the way from the root to the working directory, at most. -/
def workingDepth : Nat := 5

/-- The directory that holds a directory. The root holds itself. -/
def above (location : Location) : Location :=
  if location = ["/"] then location
  else if location.all (· = "..") then
    if location.length + 1 < workingDepth then location ++ [".."] else ["/"]
  else location.dropLast

/-- The longest name that a directory can hold, in bytes. -/
def nameLimit : Nat := 255

/-- Follows components from a directory. The flag tells that a slash ends the path. -/
def follow (files : HostFiles) (use : PathUse) (slash : Bool) :
    Location → List String → Except FileError PathTarget
  | location, [] => .ok (.directory location)
  | location, "." :: rest => follow files use slash location rest
  | location, ".." :: rest => follow files use slash (above location) rest
  | location, name :: rest =>
    let here := location ++ [name]
    if use = .create && slash && rest.isEmpty then .error .isDirectory
    else if nameLimit < name.utf8ByteSize then .error .nameTooLong
    else if files.isDirectory here then follow files use slash here rest
    else if (files.contentsAt? here).isSome then
      if rest.isEmpty && !slash then .ok (.file here) else .error .notDirectory
    else if rest.isEmpty && !slash then .ok (.vacant here)
    else .error .notFound

/-- The components of a path; empty ones count for nothing. -/
def components (path : String) : List String :=
  (Text.pieces '/' path.toList).filterMap fun name =>
    if name.isEmpty then none else some (String.ofList name)

/-- No path has as many bytes as this. -/
def pathLimit : Nat := 4096

def resolve (files : HostFiles) (use : PathUse) (path : String) : Except FileError PathTarget :=
  if path.toList.contains '\x00' then .error .nulByte
  else if pathLimit ≤ path.utf8ByteSize then .error .nameTooLong
  else if path.isEmpty then .error .notFound
  else follow files use (path.toList.getLast? = some '/') (Location.start path) (components path)

def pathExists (files : HostFiles) (path : String) : Bool :=
  match files.resolve .find path with
  | .ok (.file _) | .ok (.directory _) => true
  | _ => false

def read (files : HostFiles) (path : String) : Except FileError String :=
  match files.resolve .find path with
  | .ok (.file location) => .ok ((files.contentsAt? location).getD "")
  | .ok (.directory _) => .error .isDirectory
  | .ok (.vacant _) => .error .notFound
  | .error cause => .error cause

/-- Writes a file, in the place of the one that was there. -/
def write (files : HostFiles) (path content : String) : Except FileError HostFiles :=
  match files.resolve .create path with
  | .ok (.directory _) => .error .isDirectory
  | .ok (.file location) | .ok (.vacant location) =>
    if location = emptyFile then .ok files
    else
      .ok { files with contents := (location, content) :: files.contents.filter (·.1 ≠ location) }
  | .error cause => .error cause

/-- The files with a directory and those above it. -/
def addDirectory (files : HostFiles) (location : Location) : HostFiles :=
  let above := (List.range location.length).map fun depth => location.take (depth + 1)
  { files with directories := files.directories ++ above }

/-- Files listed by path. A path that ends in a slash stands for a directory, and the directories
above a path exist with it. -/
def ofList (listing : List (String × String)) : HostFiles :=
  listing.foldl (fun files (path, content) =>
    let location := Location.start path ++ components path
    if path.toList.getLast? = some '/' then files.addDirectory location
    else
      let files := files.addDirectory location.dropLast
      { files with contents := (location, content) :: files.contents }) {}

end HostFiles

end ContainerFixture
