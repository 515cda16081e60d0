import ContainerFixture.Engine

/-!
# Kinds of engines

The engines that can be chosen by name.
-/

namespace ContainerFixture

inductive EngineKind where
  | docker
  | memory
deriving DecidableEq, Repr

namespace EngineKind

def text : EngineKind → String
  | docker => "docker"
  | memory => "mock"

def ofText (name : String) : Except EngineError EngineKind :=
  if name = docker.text then .ok docker
  else if name = memory.text then .ok memory
  else .error (.refused s!"unknown transport '{name}'")

end EngineKind

end ContainerFixture
