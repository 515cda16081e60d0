/-!
# Invocations

What the arguments of the program ask for. Options that are good for every command may stand before
or after the name of the command, each at most once on either side; after the command they count
more. Two hyphens end the options.
-/

namespace ContainerFixture.CommandLine

inductive Command where
  | up (manifest : String)
  | exec (manifest : String) (command : List String)
  | check (manifest : String)
  | ports (listing : String)
  | image (reference : String)
  | doctor (manifest : String)
  | version
deriving DecidableEq, Repr

/-- A command with what every command is told. -/
structure Invocation where
  engine : String
  json : Bool
  command : Command
deriving DecidableEq, Repr

def defaultEngine : String := "docker"

def defaultManifest : String := "berth.toml"

/-- The options on one side of a command's name, and what else stands there. -/
structure Side where
  engine : Option String := none
  json : Bool := false
  verbose : Bool := false
  trace : Bool := false
  manifest : Option String := none
  version : Bool := false
  /-- The arguments that are not options. -/
  plain : List String := []
  /-- The arguments after two hyphens, if there are two hyphens. -/
  rest : Option (List String) := none
deriving DecidableEq, Repr

inductive Shape where
  | twoHyphens
  /-- Two hyphens and a name, with a value after an equals sign if there is one. -/
  | long (name : String) (value : Option String)
  | short (letters : List Char)
  | plain
deriving DecidableEq, Repr

def shapeOf (argument : String) : Shape :=
  match argument.toList with
  | ['-', '-'] => .twoHyphens
  | '-' :: '-' :: name =>
    let value := match name.dropWhile (· ≠ '=') with
      | _ :: value => some (String.ofList value)
      | [] => none
    .long (String.ofList (name.takeWhile (· ≠ '='))) value
  | '-' :: c :: letters => .short (c :: letters)
  | _ => .plain

namespace Side

/-- Names the engine, which can be done once. -/
def setEngine? (side : Side) (engine : String) : Option Side :=
  if side.engine.isSome then none else some { side with engine := some engine }

/-- Names the manifest, which can be done once and not by nothing. -/
def setManifest? (side : Side) (manifest : String) : Option Side :=
  if side.manifest.isSome || manifest.isEmpty then none
  else some { side with manifest := some manifest }

def switch? (side : Side) : String → Option Side
  | "json" => if side.json then none else some { side with json := true }
  | "verbose" => if side.verbose then none else some { side with verbose := true }
  | "trace" => if side.trace then none else some { side with trace := true }
  | _ => none

def letter? (side : Side) (letter : Char) : Option Side :=
  if letter = 'v' then side.switch? "verbose" else none

end Side

/-- Reads the arguments on one side of a command's name. Before it, that is when `before` holds, the
first plain argument ends the side, and so does the option that asks for the version. -/
def readSide (before : Bool) : Side → List String → Option (Side × List String)
  | side, [] => some (side, [])
  | side, argument :: more =>
    match shapeOf argument with
    | .twoHyphens => some ({ side with rest := some more }, [])
    | .plain =>
      if before then some ({ side with plain := [argument] }, more)
      else readSide before { side with plain := side.plain ++ [argument] } more
    | .short letters =>
      let asksVersion := before && letters.contains 'V'
      let letters := if asksVersion then letters.takeWhile (· ≠ 'V') else letters
      match letters.foldlM Side.letter? side with
      | some side =>
        if asksVersion then some ({ side with version := true }, []) else readSide before side more
      | none => none
    | .long name value =>
      let set? := match name with
        | "transport" => some Side.setEngine?
        | "manifest" => some Side.setManifest?
        | _ => none
      match set?, value, more with
      | none, none, more =>
        if before && name = "version" then some ({ side with version := true }, []) else
        match side.switch? name with
        | some side => readSide before side more
        | none => none
      | none, some _, _ => none
      | some set?, some value, more =>
        match set? side value with
        | some side => readSide before side more
        | none => none
      | some _, none, [] => none
      | some set?, none, value :: more =>
        match shapeOf value, set? side value with
        | .plain, some side => readSide before side more
        | _, _ => none

/-- The only argument that a command takes, if it is given one. -/
def Side.onlyArgument? (side : Side) : Option (Option String) :=
  match side.plain ++ side.rest.getD [] with
  | [] => some none
  | [argument] => some (some argument)
  | _ => none

/-- The manifest that a command is given as its argument, or the usual one. -/
def Side.manifestArgument? (side : Side) : Option String := do
  let manifest := (← side.onlyArgument?).getD defaultManifest
  if side.manifest.isSome || manifest.isEmpty then none else some manifest

def Side.neededArgument? (side : Side) : Option String :=
  if side.manifest.isSome then none else side.onlyArgument?.join

def command? (name : String) (side : Side) : Option Command :=
  match name with
  | "up" => side.manifestArgument?.map .up
  | "check" => side.manifestArgument?.map .check
  | "doctor" => side.manifestArgument?.map .doctor
  | "ports" => side.neededArgument?.map .ports
  | "image" => side.neededArgument?.map .image
  | "exec" =>
    match side.plain, side.rest with
    | [], some (argument :: arguments) =>
      some (.exec (side.manifest.getD defaultManifest) (argument :: arguments))
    | _, _ => none
  | _ => none

/-- What the arguments ask for, if they can be understood. -/
def Invocation.read? (arguments : List String) : Option Invocation := do
  let (before, more) ← readSide true {} arguments
  if before.manifest.isSome then none
  if before.version then return ⟨defaultEngine, false, .version⟩
  match before.plain with
  | [] => none
  | name :: _ =>
    let (after, _) ← readSide false {} more
    let command ← command? name after
    let engine := (after.engine.or before.engine).getD defaultEngine
    return ⟨engine, before.json || after.json, command⟩

end ContainerFixture.CommandLine
