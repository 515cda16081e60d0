import ContainerFixture.Text.Property

/-!
# Patterns

Regular expressions as they are searched for in lines of output. Only whether a pattern occurs
matters, so a pattern is run on sets of positions: `advance` takes the positions reached before a
pattern to those reached after it. A position stands before each character and after the last, and a
set of them is a mark for each.
-/

namespace ContainerFixture

open Text

/-- A class of characters: code points that are no halves of surrogate pairs. -/
abbrev CharSet := PointSet

/-- What is required of the two characters around a position. -/
inductive Look where
  | textStart
  | textEnd
  /-- After a line feed too; with `carriage`, after a carriage return that no line feed follows. -/
  | lineStart (carriage : Bool)
  | lineEnd (carriage : Bool)
  | wordBoundary (ascii : Bool)
  | noWordBoundary (ascii : Bool)
  | wordStart (ascii : Bool)
  | wordEnd (ascii : Bool)
  /-- No word character before. -/
  | wordStartHalf (ascii : Bool)
  /-- No word character after. -/
  | wordEndHalf (ascii : Bool)
deriving DecidableEq, Repr

/-- Whether a character is a letter, a digit or an underscore of ASCII. -/
def isAsciiWord (c : Char) : Bool := c.isAlphanum || c = '_'

def isWord (ascii : Bool) (c? : Option Char) : Bool :=
  c?.any fun c => if ascii then isAsciiWord c else PointSet.wordPoints.contains c.toNat

/-- Whether the characters before and after a position are as required. -/
def Look.holds (before after : Option Char) : Look → Bool
  | textStart => before.isNone
  | textEnd => after.isNone
  | lineStart carriage =>
    before.isNone || before = some '\n' ||
      (carriage && before = some '\r' && after ≠ some '\n')
  | lineEnd carriage =>
    after.isNone || (carriage && after = some '\r') ||
      (after = some '\n' && !(carriage && before = some '\r'))
  | wordBoundary ascii => isWord ascii before != isWord ascii after
  | noWordBoundary ascii => isWord ascii before == isWord ascii after
  | wordStart ascii => !isWord ascii before && isWord ascii after
  | wordEnd ascii => isWord ascii before && !isWord ascii after
  | wordStartHalf ascii => !isWord ascii before
  | wordEndHalf ascii => !isWord ascii after

inductive Pattern where
  | empty
  /-- Some characters, one after the other. -/
  | literal (text : List Char)
  /-- One character of a class. -/
  | char (set : CharSet)
  | look (required : Look)
  /-- One pattern after the other. -/
  | seq (parts : List Pattern)
  /-- One of several patterns. -/
  | alt (branches : List Pattern)
  /-- A pattern at least `least` times in a row, and at most `most` times if that is given; as often
  as possible if it is `greedy`. -/
  | again (body : Pattern) (least : Nat) (most : Option Nat) (greedy : Bool)
  /-- A pattern whose match is remembered. -/
  | group (body : Pattern)

namespace Pattern

abbrev Marks := List Bool

/-- A step taken so many times. A set that the step leaves alone need not be taken further. -/
def times (step : Marks → Marks) : Nat → Marks → Marks
  | 0, marks => marks
  | n + 1, marks =>
    let next := step marks
    if next = marks then marks else times step n next

/-- What is reached by a step taken at most so many times. -/
def within (step : Marks → Marks) : Nat → Marks → Marks
  | 0, marks => marks
  | n + 1, marks =>
    let next := marks.zipWith (· || ·) (step marks)
    if next = marks then marks else within step n next

/-- The pairs of characters around each position, given the character before the first. -/
def surroundings : Option Char → List Char → List (Option Char × Option Char)
  | before, [] => [(before, none)]
  | before, c :: rest => (before, some c) :: surroundings (some c) rest

/-- The positions reached after one character that passes a test. -/
def past (text : List Char) (test : Char → Bool) (marks : Marks) : Marks :=
  false :: marks.zipWith (fun mark c => mark && test c) text

mutual

/-- The positions reached after a pattern, given those reached before it. -/
def advance (text : List Char) : Pattern → Marks → Marks
  | empty, marks => marks
  | literal cs, marks => cs.foldl (fun marks c => past text (· = c) marks) marks
  | char set, marks => past text (fun c => set.contains c.toNat) marks
  | look required, marks =>
    marks.zipWith (fun mark around => mark && required.holds around.1 around.2)
      (surroundings none text)
  | seq parts, marks => advanceAll text parts marks
  | alt branches, marks => advanceAny text branches marks
  | again body least most _, marks =>
    let reached := times (advance text body) least marks
    match most with
    | none => within (advance text body) (text.length + 1) reached
    | some most => within (advance text body) (most - least) reached
  | group body, marks => advance text body marks

/-- The positions reached after patterns one after the other. -/
def advanceAll (text : List Char) : List Pattern → Marks → Marks
  | [], marks => marks
  | p :: rest, marks => advanceAll text rest (advance text p marks)

/-- The positions reached after any of several patterns. -/
def advanceAny (text : List Char) : List Pattern → Marks → Marks
  | [], marks => marks.map fun _ => false
  | p :: rest, marks => (advance text p marks).zipWith (· || ·) (advanceAny text rest marks)

end

/-- Whether a pattern occurs in a text. -/
def occursIn (p : Pattern) (text : String) : Bool :=
  let text := text.toList
  (advance text p (List.replicate (text.length + 1) true)).any id

end Pattern

end ContainerFixture
