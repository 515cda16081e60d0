import ContainerFixture.Container
import ContainerFixture.Document.Value

/-!
# Containers as values

What a handle tells of its container, in its external form.
-/

namespace ContainerFixture.Container

open Document

/-- What was learned about a container when it was created. -/
def encode (c : Container) : Value :=
  .table [("id", .text c.id.text), ("name", .ofOption .text c.name), ("image", .text c.image.text),
    ("stickiness", .text c.stickiness.text), ("command_type", .text c.commandType.text),
    ("stop_timeout_secs", .natural c.stopTimeout.toNat), ("warnings", .texts c.warnings)]

end ContainerFixture.Container
