/-!
# Container identifiers

The identifier that an engine gives to a container when it creates it. Engines write long
identifiers; the first twelve characters are their usual short form.
-/
namespace ContainerFixture

/-- An identifier given by the engine. -/
structure ContainerId where
  text : String
  deriving DecidableEq, Repr

def ContainerId.shortLength : Nat := 12

/-- The first twelve characters, or all of a shorter identifier. -/
def ContainerId.short (id : ContainerId) : String :=
  String.ofList (id.text.toList.take ContainerId.shortLength)

end ContainerFixture
