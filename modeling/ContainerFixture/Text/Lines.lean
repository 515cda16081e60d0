/-!
# Lines

A line ends at a line feed, or at a carriage return with a line feed after it; what follows the
last line feed is a line too, unless it is empty. The definitions serve characters and bytes alike.
-/
namespace ContainerFixture.Text

variable {α : Type} [DecidableEq α]

/-- A terminated line without the carriage return before its line feed. -/
def withoutReturn (carriage : α) (line : List α) : List α :=
  if line.getLast? = some carriage then line.dropLast else line

/-- The lines of a sequence, given the line feed and the carriage return. `line` holds what was
read of the current line, in reverse. -/
def linesFrom (feed carriage : α) : List α → List α → List (List α)
  | [], [] => []
  | line, [] => [line.reverse]
  | line, c :: rest =>
    if c = feed then withoutReturn carriage line.reverse :: linesFrom feed carriage [] rest
    else linesFrom feed carriage (c :: line) rest

def lines (s : String) : List String :=
  (linesFrom '\n' '\r' [] s.toList).map String.ofList

def byteLines (bytes : List UInt8) : List (List UInt8) := linesFrom 0x0A 0x0D [] bytes

end ContainerFixture.Text
