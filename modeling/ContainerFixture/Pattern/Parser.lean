import ContainerFixture.Pattern.CharSet
import ContainerFixture.Pattern.Size
import ContainerFixture.Text.Newest

/-!
# Reading patterns

The syntax of regular expressions. A reader works through the text from left to right with the
groups that are open on a stack; the flags in force are part of its state, and a group gives back
those that were in force before it. `Pattern.parse?` has no value for a text that is not a pattern,
that nests too deep or that would be too large.
-/

namespace ContainerFixture.Pattern

open Text

/-- How the text of a pattern is read, and what some of its signs mean. -/
structure Flags where
  ignoreCase : Bool := false
  multiLine : Bool := false
  dotAll : Bool := false
  /-- Whether classes are those of Unicode and not those of ASCII. -/
  unicode : Bool := true
  /-- Whether a carriage return can end a line. -/
  carriage : Bool := false
  /-- Whether blanks and comments between signs are skipped. -/
  spaced : Bool := false

/-- A pattern that was read, with how deep its text nests. -/
structure Piece where
  pattern : Pattern
  depth : Nat := 0
  /-- Whether it is a change of flags, which cannot be repeated. -/
  isFlags : Bool := false

/-- How deep a pattern may nest. -/
def depthLimit : Nat := 250

namespace Piece

def concat : List Piece → Piece
  | [] => { pattern := .empty }
  | [piece] => { piece with isFlags := false }
  | pieces => {
    pattern := row (pieces.map pattern)
    depth := 1 + (pieces.map depth).foldl max 0 }

def alternatives : List Piece → Piece
  | [] => { pattern := .empty }
  | [piece] => piece
  | pieces => {
    pattern := choice (pieces.map pattern)
    depth := 1 + (pieces.map depth).foldl max 0 }

/-- A piece in parentheses, which remember its match or not. -/
def group (piece : Piece) (remembers : Bool) : Piece where
  pattern := if remembers then .group piece.pattern else piece.pattern
  depth := piece.depth + 1

/-- A piece over and over. -/
def again (piece : Piece) (least : Nat) (most : Option Nat) (greedy : Bool) : Piece where
  pattern := repeated piece.pattern least most greedy
  depth := piece.depth + 1

end Piece

/-! ### Blanks and numbers -/

/-- What is left after a comment. -/
def afterComment (cs : List Char) : List Char := (cs.dropWhile (· ≠ '\n')).tail

/-- What is left after blanks and comments. -/
def skipBlanks : Nat → List Char → List Char
  | 0, cs => cs
  | fuel + 1, c :: rest =>
    if isBlank c then skipBlanks fuel rest
    else if c = '#' then skipBlanks fuel (afterComment rest)
    else c :: rest
  | _ + 1, [] => []

/-- What is left after blanks and comments, when the flags say that they are skipped. -/
def Flags.skip (flags : Flags) (cs : List Char) : List Char :=
  if flags.spaced then skipBlanks cs.length cs else cs

/-- The text from the next sign on, past the sign in front. -/
def Flags.next (flags : Flags) (cs : List Char) : List Char := flags.skip cs.tail

/-- The characters up to the first that fails a test, where blanks may stand between them. -/
def Flags.taken (flags : Flags) (test : Char → Bool) : Nat → List Char → List Char × List Char
  | fuel + 1, c :: rest =>
    if test c then
      let (more, left) := flags.taken test fuel (flags.skip rest)
      (c :: more, left)
    else ([], c :: rest)
  | _, cs => ([], cs)

/-- A number of at most thirty-two bits with blanks around it. -/
def Flags.decimal? (flags : Flags) (cs : List Char) : Option (Nat × List Char) :=
  let cs := cs.dropWhile isBlank
  let (digits, cs) := flags.taken Char.isDigit cs.length cs
  let value := digits.foldl (fun value c => value * 10 + (c.toNat - '0'.toNat)) 0
  if digits.isEmpty || UInt32.size ≤ value then none
  else some (value, flags.skip (cs.dropWhile isBlank))

/-! ### Single signs -/

inductive Sign where
  /-- A character. It may have been written as a byte, with two hexadecimal digits. -/
  | literal (c : Char) (byte : Bool)
  | set (set : CharSet)
  | look (required : Look)

/-- The character with a number, if there is one. -/
def scalar? (value : Nat) : Option Char :=
  if value.isValidChar then some (Char.ofNat value) else none

/-- So many hexadecimal digits. -/
def Flags.hexDigits? (flags : Flags) : Nat → List Char → Option (List Char × List Char)
  | 0, cs => some ([], cs)
  | n + 1, c :: rest => do
    let _ ← hexDigit? c
    let (more, left) ← flags.hexDigits? n (flags.skip rest)
    return (c :: more, left)
  | _ + 1, [] => none

/-- A character by its number: so many hexadecimal digits, or any of them between braces. -/
def Flags.numbered? (flags : Flags) (digits : Nat) (cs : List Char) :
    Option (Sign × List Char) := do
  match flags.skip cs with
  | '\x7b' :: rest =>
    let cs := flags.skip rest
    let (value, left) := flags.taken (fun c => (hexDigit? c).isSome) cs.length cs
    match left with
    | '\x7d' :: left =>
      if value.isEmpty then none
      return (.literal (← scalar? (hexValue value)) false, flags.skip left)
    | _ => none
  | cs =>
    let (value, left) ← flags.hexDigits? digits cs
    return (.literal (← scalar? (hexValue value)) (digits = 2), left)

/-- A class of Unicode: a letter, or a description between braces. -/
def Flags.property? (flags : Flags) (negated : Bool) (cs : List Char) :
    Option (Sign × List Char) := do
  let (description, left) ← match flags.skip cs with
    | '\x7b' :: rest =>
      let cs := flags.skip rest
      match flags.taken (· ≠ '\x7d') cs.length cs with
      | (description, _ :: left) => some (description, left)
      | _ => none
    | c :: rest => if c = '\\' then none else some ([c], flags.skip rest)
    | [] => none
  if !flags.unicode then none
  let (isOther, named) ← CharSet.ofDescription description
  let set := if flags.ignoreCase then CharSet.foldCase false named else named
  return (.set (CharSet.negateIf (negated != isOther) set), left)

/-- The boundary that a name between braces stands for. -/
def Flags.boundaryNamed? (flags : Flags) : String → Option Look
  | "start" => some (.wordStart !flags.unicode)
  | "end" => some (.wordEnd !flags.unicode)
  | "start-half" => some (.wordStartHalf !flags.unicode)
  | "end-half" => some (.wordEndHalf !flags.unicode)
  | _ => none

/-- What follows `\b`. A brace opens a name if a letter or a hyphen comes after it, and a count
otherwise. -/
def Flags.boundary? (flags : Flags) (cs : List Char) : Option (Sign × List Char) :=
  let plain := some (Sign.look (.wordBoundary !flags.unicode), cs)
  match cs with
  | '\x7b' :: rest =>
    let ofName (c : Char) : Bool := c.isAlpha || c = '-'
    match flags.skip rest with
    | [] => none
    | c :: more =>
      if ofName c then
        match flags.taken ofName (more.length + 1) (c :: more) with
        | (name, '\x7d' :: left) =>
          (flags.boundaryNamed? (String.ofList name)).map fun required => (.look required, left)
        | _ => none
      else plain
  | _ => plain

/-- The characters that stand for themselves after a backslash: all of ASCII but letters, digits and
the two signs for boundaries. -/
def isEscapable (c : Char) : Bool :=
  c.toNat < 0x80 && !c.isAlphanum && c ≠ '<' && c ≠ '>'

def Flags.escape? (flags : Flags) : List Char → Option (Sign × List Char)
  | [] => none
  | c :: rest =>
    let letter (c : Char) : Option (Sign × List Char) := some (.literal c false, rest)
    let look (required : Look) : Option (Sign × List Char) := some (.look required, rest)
    let ascii := !flags.unicode
    match c with
    | 'x' => flags.numbered? 2 rest
    | 'u' => flags.numbered? 4 rest
    | 'U' => flags.numbered? 8 rest
    | 'p' => flags.property? false rest
    | 'P' => flags.property? true rest
    | 'd' | 's' | 'w' =>
      (CharSet.ofLetter ascii c).map fun set => (.set set, rest)
    | 'D' | 'S' | 'W' =>
      if ascii then none
      else (CharSet.ofLetter false c.toLower).map fun set => (.set (CharSet.negate set), rest)
    | 'a' => letter '\x07'
    | 'f' => letter '\x0c'
    | 't' => letter '\t'
    | 'n' => letter '\n'
    | 'r' => letter '\r'
    | 'v' => letter '\x0b'
    | 'A' => look .textStart
    | 'z' => look .textEnd
    | 'b' => flags.boundary? rest
    | 'B' => look (.noWordBoundary ascii)
    | '<' => look (.wordStart ascii)
    | '>' => look (.wordEnd ascii)
    | c => if isEscapable c then letter c else none

/-! ### Bracketed classes -/

structure ClassPiece where
  set : CharSet
  depth : Nat := 0

/-- Sets side by side. -/
def ClassPiece.union : List ClassPiece → ClassPiece
  | [] => { set := ∅ }
  | [piece] => piece
  | pieces => {
    set := .unions (pieces.map set)
    depth := 1 + (pieces.map depth).foldl max 0 }

inductive SetOperation where
  | intersection
  | difference
  | symmetricDifference

def SetOperation.apply : SetOperation → CharSet → CharSet → CharSet
  | intersection, left, right => left ∩ right
  | difference, left, right => left \ right
  | symmetricDifference, left, right => (left \ right) ∪ (right \ left)

/-- What is open inside a bracketed class. -/
inductive ClassFrame where
  /-- A bracket, with the sets that stood before it. -/
  | bracket (negated : Bool) (before : List ClassPiece)
  /-- An operation, with its left side. -/
  | operation (operation : SetOperation) (left : ClassPiece)

/-- A set with both cases of its letters, if the flags say so. -/
def Flags.cased (flags : Flags) (set : CharSet) : CharSet :=
  if flags.ignoreCase then CharSet.foldCase (!flags.unicode) set else set

/-- Ends the right side of an operation, if one is open. The sets come newest first. -/
def Flags.endOperation (flags : Flags) (stack : List ClassFrame) (sets : List ClassPiece) :
    ClassPiece × List ClassFrame :=
  let right := ClassPiece.union sets.reverse
  match stack with
  | .operation operation left :: stack =>
    ({ set := operation.apply (flags.cased left.set) (flags.cased right.set),
       depth := 1 + max left.depth right.depth }, stack)
  | stack => (right, stack)

/-- A class of ASCII in brackets and colons. -/
def Flags.asciiClass? (flags : Flags) : List Char → Option (ClassPiece × List Char)
  | '[' :: ':' :: rest =>
    let (negated, rest) := match rest with
      | '^' :: rest => (true, rest)
      | rest => (false, rest)
    match (CharSet.ofAsciiName (String.ofList (rest.takeWhile (· ≠ ':')))),
        rest.dropWhile (· ≠ ':') with
    | some set, ':' :: ']' :: left =>
      some ({ set := CharSet.negateIf negated (flags.cased set) }, left)
    | _, _ => none
  | _ => none

/-- Whether a class of ASCII is negated. -/
def isNegatedAsciiClass : List Char → Bool
  | '[' :: ':' :: '^' :: _ => true
  | _ => false

/-- Hyphens at the start of a class, which stand for themselves. -/
def Flags.leadingHyphens (flags : Flags) : Nat → List Char → Nat × List Char
  | fuel + 1, '-' :: rest =>
    let (n, left) := flags.leadingHyphens fuel (flags.skip rest)
    (n + 1, left)
  | _, cs => (0, cs)

/-- The inside of a bracket: whether it is negated, the sets that stand for themselves at its start,
and the rest. -/
def Flags.openBracket? (flags : Flags) (cs : List Char) :
    Option (Bool × List ClassPiece × List Char) := do
  let (negated, cs) := match flags.skip cs with
    | '^' :: rest => (true, flags.skip rest)
    | cs => (false, cs)
  if negated && !flags.unicode then none
  let (hyphens, cs) := flags.leadingHyphens cs.length cs
  let sets := List.replicate hyphens { set := CharSet.span '-' '-' }
  match cs with
  | [] => none
  | ']' :: rest =>
    if hyphens = 0 then
      let rest := flags.skip rest
      if rest.isEmpty then none
      return (negated, [{ set := CharSet.span ']' ']' }], rest)
    return (negated, sets, cs)
  | cs => return (negated, sets, cs)

def Flags.classSign? (flags : Flags) : List Char → Option (Sign × List Char)
  | '\\' :: rest => flags.escape? rest
  | c :: rest => some (.literal c false, rest)
  | [] => none

/-- The character that a sign inside a class stands for. Without Unicode it has to be ASCII. -/
def Flags.classChar? (flags : Flags) : Sign → Option Char
  | .literal c _ => if flags.unicode || c.toNat < 0x80 then some c else none
  | _ => none

/-- What is taken to follow a hyphen, when blanks are skipped: the first sign past blanks, one
number sign and further blanks, even inside the comment that the number sign begins; if there is
none, the very next character. -/
def Flags.peeked (flags : Flags) (cs : List Char) : Option Char :=
  if flags.spaced then
    let seen := match cs.dropWhile isBlank with
      | '#' :: rest => rest.dropWhile isBlank
      | rest => rest
    seen.head?.or cs.head?
  else cs.head?

/-- A sign inside a class, or a range of them. -/
def Flags.classRange? (flags : Flags) (cs : List Char) : Option (ClassPiece × List Char) := do
  let (first, cs) ← flags.classSign? cs
  let single (cs : List Char) : Option (ClassPiece × List Char) :=
    match first with
    | .set set => some ({ set }, cs)
    | sign => (flags.classChar? sign).map fun c => ({ set := CharSet.span c c }, cs)
  match flags.skip cs with
  | [] => none
  | '-' :: rest =>
    let after := flags.peeked rest
    if after = some ']' || after = some '-' then single ('-' :: rest)
    else
      let (last, cs) ← flags.classSign? (flags.skip rest)
      let first ← flags.classChar? first
      let last ← flags.classChar? last
      if last < first then none
      return ({ set := CharSet.span first last }, cs)
  | cs => single cs

def Flags.classRest? (flags : Flags) :
    Nat → List ClassFrame → List ClassPiece → List Char → Option (ClassPiece × List Char)
  | 0, _, _, _ => none
  | fuel + 1, stack, sets, cs => do
    let operation (operation : SetOperation) (rest : List Char) :
        Option (ClassPiece × List Char) :=
      let (left, stack) := flags.endOperation stack sets
      flags.classRest? fuel (.operation operation left :: stack) [] rest
    match flags.skip cs with
    | [] => none
    | '[' :: rest =>
      match flags.asciiClass? ('[' :: rest) with
      | some (piece, left) =>
        if !flags.unicode && isNegatedAsciiClass ('[' :: rest) then none
        else flags.classRest? fuel stack (piece :: sets) left
      | none =>
        let (negated, inside, left) ← flags.openBracket? rest
        flags.classRest? fuel (.bracket negated sets :: stack) inside left
    | ']' :: rest =>
      match flags.endOperation stack sets with
      | (piece, .bracket negated before :: stack) =>
        let closed : ClassPiece :=
          { piece with set := CharSet.negateIf negated (flags.cased piece.set),
                       depth := piece.depth + 1 }
        if stack.isEmpty then some (closed, rest)
        else flags.classRest? fuel stack (closed :: before) rest
      | _ => none
    | '&' :: '&' :: rest => operation .intersection rest
    | '-' :: '-' :: rest => operation .difference rest
    | '~' :: '~' :: rest => operation .symmetricDifference rest
    | cs =>
      let (piece, left) ← flags.classRange? cs
      flags.classRest? fuel stack (piece :: sets) left

/-- A bracketed class, past its first bracket. -/
def Flags.bracketed? (flags : Flags) (cs : List Char) : Option (ClassPiece × List Char) := do
  let (negated, inside, left) ← flags.openBracket? cs
  flags.classRest? (cs.length + 1) [.bracket negated []] inside left

/-! ### Groups -/

/-- A group that is open: whether it remembers its match, the flags before it, and what stood before
it in the group around it. -/
structure OpenGroup where
  remembers : Bool
  flags : Flags
  branches : List Piece
  row : List Piece

structure Reader where
  flags : Flags := {}
  /-- The names of groups so far. -/
  names : List (List Char) := []
  /-- The alternatives before this one, newest first. -/
  branches : List Piece := []
  /-- The pieces of this alternative, newest first. -/
  row : List Piece := []
  outer : List OpenGroup := []

namespace Reader

def push (r : Reader) (piece : Piece) : Reader := { r with row := piece :: r.row }

/-- Everything read in the current group. -/
def whole (r : Reader) : Piece :=
  Piece.alternatives (Piece.concat r.row.reverse :: r.branches).reverse

def descend (r : Reader) (remembers : Bool) (flags : Flags) : Reader :=
  { r with flags, branches := [], row := [],
           outer := ⟨remembers, r.flags, r.branches, r.row⟩ :: r.outer }

/-- Comes out of a group, with the flags from before it. -/
def ascend? (r : Reader) : Option Reader :=
  match r.outer with
  | [] => none
  | opened :: outer =>
    some { r with flags := opened.flags, branches := opened.branches, outer,
                  row := r.whole.group opened.remembers :: opened.row }

/-- Repeats the last piece. -/
def repeatLast? (r : Reader) (least : Nat) (most : Option Nat) (greedy : Bool) :
    Option Reader :=
  match r.row with
  | piece :: row =>
    if piece.isFlags then none else some { r with row := piece.again least most greedy :: row }
  | [] => none

/-- A sign as a piece. A byte that is no character by itself is refused where signs are not those of
Unicode. -/
def pushSign? (r : Reader) : Sign → Option Reader
  | .literal c byte =>
    if byte && !r.flags.unicode && 0x80 ≤ c.toNat then none
    else
      some (r.push { pattern := .ofSet (r.flags.cased (CharSet.span c c)) })
  | .set set => some (r.push { pattern := .ofSet set })
  | .look required => some (r.push { pattern := .look required })

end Reader

/-- The letters of flags up to the colon or parenthesis that ends them, which comes second. A letter
comes at most once, and a hyphen not last. -/
def flagLetters? : List Char → List Char → Option (List Char × Char × List Char)
  | _, [] => none
  | seen, c :: rest =>
    if c = ':' || c = ')' then
      if seen.head? = some '-' then none else some (seen.reverse, c, rest)
    else if seen.contains c || !"imsUuRx-".toList.contains c then none
    else flagLetters? (c :: seen) rest

/-- The flags with one of them set. -/
def Flags.put (flags : Flags) (letter : Char) (value : Bool) : Flags :=
  match letter with
  | 'i' => { flags with ignoreCase := value }
  | 'm' => { flags with multiLine := value }
  | 's' => { flags with dotAll := value }
  | 'u' => { flags with unicode := value }
  | 'R' => { flags with carriage := value }
  | 'x' => { flags with spaced := value }
  | _ => flags

/-- The flags changed by letters: those before a hyphen are set and those after it are not. -/
def Flags.change (flags : Flags) (letters : List Char) : Flags :=
  let flags := (letters.takeWhile (· ≠ '-')).foldl (fun flags c => flags.put c true) flags
  (letters.dropWhile (· ≠ '-')).foldl (fun flags c => flags.put c false) flags

def isGroupName : List Char → Bool
  | [] => false
  | first :: rest =>
    (first = '_' || PointSet.nameStart.contains first.toNat) &&
      rest.all fun c =>
        ['_', '.', '[', ']'].contains c || PointSet.nameContinue.contains c.toNat

/-- Opens a named group, past the bracket before its name. -/
def Reader.named? (r : Reader) (cs : List Char) : Option (Reader × List Char) :=
  let name := cs.takeWhile (· ≠ '>')
  match cs.dropWhile (· ≠ '>') with
  | [] => none
  | _ :: rest =>
    if isGroupName name && !r.names.contains name then
      some ({ r with names := name :: r.names }.descend true r.flags, rest)
    else none

/-- What follows an opening parenthesis: looking around is not supported. -/
def Reader.parenthesis? (r : Reader) (cs : List Char) : Option (Reader × List Char) :=
  match r.flags.skip cs with
  | '?' :: '=' :: _ | '?' :: '!' :: _ | '?' :: '<' :: '=' :: _ | '?' :: '<' :: '!' :: _ => none
  | '?' :: 'P' :: '<' :: rest | '?' :: '<' :: rest => r.named? rest
  | '?' :: rest => do
    let (letters, last, rest) ← flagLetters? [] rest
    let flags := r.flags.change letters
    if last = ':' then return (r.descend false flags, rest)
    if letters.isEmpty then none
    return ({ r with flags }.push { pattern := .empty, isFlags := true }, rest)
  | cs => some (r.descend true r.flags, cs)

/-! ### Patterns -/

/-- Whether a sign of repetition is greedy, and the text after it: a question mark makes it lazy. -/
def greedyOrLazy : List Char → Bool × List Char
  | '?' :: rest => (false, rest)
  | cs => (true, cs)

/-- The bounds of a counted repetition, past its opening brace. -/
def Flags.bounds? (flags : Flags) (cs : List Char) :
    Option ((Nat × Option Nat) × Bool × List Char) := do
  let (least, cs) ← flags.decimal? (flags.skip cs)
  let (most, cs) ← match cs with
    | ',' :: rest =>
      match flags.skip rest with
      | '\x7d' :: rest => some (none, '\x7d' :: rest)
      | cs => (flags.decimal? cs).map fun (most, cs) => (some most, cs)
    | cs => some (some least, cs)
  match cs with
  | '\x7d' :: rest =>
    if most.any (· < least) then none
    return ((least, most), greedyOrLazy (flags.skip rest))
  | _ => none

def Reader.sign? (r : Reader) (c : Char) (rest : List Char) : Option (Reader × List Char) := do
  let repeated (least : Nat) (most : Option Nat) : Option (Reader × List Char) :=
    let (greedy, rest) := greedyOrLazy rest
    (r.repeatLast? least most greedy).map fun r => (r, rest)
  match c with
  | '(' => r.parenthesis? rest
  | ')' => return (← r.ascend?, rest)
  | '|' =>
    return ({ r with branches := Piece.concat r.row.reverse :: r.branches, row := [] }, rest)
  | '[' =>
    let (piece, rest) ← r.flags.bracketed? rest
    return (r.push { pattern := .ofSet piece.set, depth := piece.depth }, rest)
  | '?' => repeated 0 (some 1)
  | '*' => repeated 0 none
  | '+' => repeated 1 none
  | '\x7b' =>
    let ((least, most), greedy, rest) ← r.flags.bounds? rest
    return (← r.repeatLast? least most greedy, rest)
  | '\\' =>
    let (sign, rest) ← r.flags.escape? rest
    return (← r.pushSign? sign, rest)
  | '.' =>
    if !r.flags.unicode then none
    let ends : CharSet :=
      if r.flags.dotAll then ∅ else if r.flags.carriage then .ofTable "a d" else .ofTable "a"
    return (r.push { pattern := .ofSet (CharSet.negate ends) }, rest)
  | '^' =>
    let required := if r.flags.multiLine then Look.lineStart r.flags.carriage else .textStart
    return (← r.pushSign? (.look required), rest)
  | '$' =>
    let required := if r.flags.multiLine then Look.lineEnd r.flags.carriage else .textEnd
    return (← r.pushSign? (.look required), rest)
  | c => return (← r.pushSign? (.literal c false), rest)

/-- Reads to the end, where no group may be open. Every sign takes a character at least, so that
`fuel` is enough when it is the number of characters and one more. -/
def Reader.finish? : Nat → Reader → List Char → Option Piece
  | 0, _, _ => none
  | fuel + 1, r, cs =>
    match r.flags.skip cs with
    | [] => if r.outer.isEmpty then some r.whole else none
    | c :: rest => do
      let (r, cs) ← r.sign? c rest
      Reader.finish? fuel r cs

def parse? (source : String) : Option Pattern := do
  let cs := source.toList
  let piece ← Reader.finish? (cs.length + 1) {} cs
  if depthLimit < piece.depth || !piece.pattern.fits then none
  return piece.pattern

end ContainerFixture.Pattern
