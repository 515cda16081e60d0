import ContainerFixture.Document.Value
import ContainerFixture.Text.PointSet

/-!
# Lexemes of TOML

Blanks, line ends, comments, keys and strings. Every function reads at the front of a text and
gives what it read and the rest, or nothing when the text does not start with what it reads.
-/
namespace ContainerFixture.Toml

open Text

def isSpace (c : Char) : Bool := c = ' ' || c = '\t'

def skipSpace (cs : List Char) : List Char := cs.dropWhile isSpace

/-- A character that may stand in comments and, unless it is a delimiter, in strings of one
line. -/
def isPlain (c : Char) : Bool := c = '\t' || (0x20 ≤ c.toNat && c.toNat ≠ 0x7F)

/-- The rest of a text after a line feed, with or without a carriage return before it. -/
def newline? : List Char → Option (List Char)
  | '\n' :: rest => some rest
  | '\r' :: '\n' :: rest => some rest
  | _ => none

/-- The rest of a text after a line end, which the end of the text is too. -/
def lineEnd? : List Char → Option (List Char)
  | [] => some []
  | cs => newline? cs

/-- Drops a comment, up to the end of its line, if one is there. -/
def skipComment : List Char → List Char
  | '#' :: rest => rest.dropWhile isPlain
  | cs => cs

/-- The rest of a text after what may follow a statement on its line. -/
def statementEnd? (cs : List Char) : Option (List Char) := lineEnd? (skipComment (skipSpace cs))

/-- Drops spaces, line ends and comments that have a line end. -/
def skipLines (cs : List Char) : List Char :=
  let start := skipSpace cs
  match newline? (skipComment start) with
  | some rest => if rest.length < cs.length then skipLines rest else start
  | none => start
termination_by cs.length

/-! ### Escapes -/

/-- The value of hexadecimal digits, if all of them are. -/
def hexDigits? (digits : List Char) : Option Nat :=
  digits.foldlM (fun value c => (hexDigit? c).map (value * 16 + ·)) 0

/-- The character of a code point that has one. -/
def charOf? (point : Nat) : Option Char :=
  if point.isValidChar then some (Char.ofNat point) else none

/-- The character that an escape writes, after its backslash. -/
def escape? : List Char → Option (Char × List Char)
  | 'b' :: rest => some ('\x08', rest)
  | 't' :: rest => some ('\t', rest)
  | 'n' :: rest => some ('\n', rest)
  | 'f' :: rest => some ('\x0C', rest)
  | 'r' :: rest => some ('\r', rest)
  | '"' :: rest => some ('"', rest)
  | '\\' :: rest => some ('\\', rest)
  | 'u' :: a :: b :: c :: d :: rest => do
    return (← charOf? (← hexDigits? [a, b, c, d]), rest)
  | 'U' :: a :: b :: c :: d :: e :: f :: g :: h :: rest => do
    return (← charOf? (← hexDigits? [a, b, c, d, e, f, g, h]), rest)
  | _ => none

theorem length_escape?_lt {cs rest : List Char} {c : Char} (read : escape? cs = some (c, rest)) :
    rest.length < cs.length := by
  unfold escape? at read
  split at read <;>
    simp only [Option.some.injEq, Prod.mk.injEq, Option.bind_eq_bind, Option.bind_eq_some_iff,
      Option.pure_def, reduceCtorEq] at read
  all_goals first
    | (obtain ⟨_, rfl⟩ := read; simp)
    | (obtain ⟨_, _, _, _, _, rfl⟩ := read; simp only [List.length_cons]; omega)

/-! ### Strings -/

/-- The rest of a string of one line after its opening quotation mark. -/
def basicBody (cs : List Char) : Option (List Char × List Char) :=
  match cs with
  | [] => none
  | '"' :: rest => some ([], rest)
  | '\\' :: rest =>
    match read : escape? rest with
    | some (c, after) =>
      have : after.length < rest.length := length_escape?_lt read
      (basicBody after).map fun more => (c :: more.1, more.2)
    | none => none
  | c :: rest => if isPlain c then (basicBody rest).map fun more => (c :: more.1, more.2) else none
termination_by cs.length

/-- The rest of a literal string of one line after its opening apostrophe. -/
def literalBody : List Char → Option (List Char × List Char)
  | [] => none
  | '\'' :: rest => some ([], rest)
  | c :: rest =>
    if isPlain c then (literalBody rest).map fun more => (c :: more.1, more.2) else none

/-- The delimiters at the end of a string of several lines: the string ends at three of them, and
up to two more before them belong to it. Fewer than three do not end it. -/
def closing? (quote : Char) (cs : List Char) : Option (List Char × List Char) :=
  let run := (cs.takeWhile (· = quote)).length
  if run < 3 then none
  else
    let kept := min (run - 3) 2
    some (List.replicate kept quote, cs.drop (kept + 3))

/-- Drops spaces and line ends. -/
def skipSpaceAndLines : List Char → List Char
  | [] => []
  | '\r' :: '\n' :: rest => skipSpaceAndLines rest
  | c :: rest => if isSpace c || c = '\n' then skipSpaceAndLines rest else c :: rest

/-- The rest of a text after an escaped line end: spaces, a line end, and all spaces and line ends
after it. -/
def continuation? (cs : List Char) : Option (List Char) :=
  (newline? (skipSpace cs)).map skipSpaceAndLines

/-- The rest of a string of several lines after its opening quotation marks. -/
def multilineBody (cs : List Char) : Option (List Char × List Char) :=
  match closing? '"' cs with
  | some (kept, after) => some (kept, after)
  | none =>
    match cs with
    | [] => none
    | '\\' :: rest =>
      match continuation? rest with
      | some after =>
        if after.length ≤ rest.length then multilineBody after else none
      | none =>
        match read : escape? rest with
        | some (c, after) =>
          have : after.length < rest.length := length_escape?_lt read
          (multilineBody after).map fun more => (c :: more.1, more.2)
        | none => none
    | '\r' :: '\n' :: rest => (multilineBody rest).map fun more => ('\n' :: more.1, more.2)
    | c :: rest =>
      if isPlain c || c = '\n' then (multilineBody rest).map fun more => (c :: more.1, more.2)
      else none
termination_by cs.length

/-- The rest of a literal string of several lines after its opening apostrophes. -/
def multilineLiteralBody (cs : List Char) : Option (List Char × List Char) :=
  match closing? '\'' cs with
  | some (kept, after) => some (kept, after)
  | none =>
    match cs with
    | [] => none
    | '\r' :: '\n' :: rest => (multilineLiteralBody rest).map fun more => ('\n' :: more.1, more.2)
    | c :: rest =>
      if isPlain c || c = '\n' then
        (multilineLiteralBody rest).map fun more => (c :: more.1, more.2)
      else none

/-- A string of any of the four kinds. A line end right after the opening of a string of several
lines does not count. -/
def string? : List Char → Option (List Char × List Char)
  | '"' :: '"' :: '"' :: rest => multilineBody ((newline? rest).getD rest)
  | '"' :: rest => basicBody rest
  | '\'' :: '\'' :: '\'' :: rest => multilineLiteralBody ((newline? rest).getD rest)
  | '\'' :: rest => literalBody rest
  | _ => none

/-! ### Keys -/

/-- A character of keys without quotes. -/
def isBare (c : Char) : Bool := c.isAlphanum || c = '_' || c = '-'

/-- One part of a key. -/
def simpleKey? : List Char → Option (String × List Char)
  | '"' :: rest => (basicBody rest).map fun read => (String.ofList read.1, read.2)
  | '\'' :: rest => (literalBody rest).map fun read => (String.ofList read.1, read.2)
  | cs =>
    let (bare, rest) := cs.span isBare
    if bare.isEmpty then none else some (String.ofList bare, rest)

/-- The parts of a key, with dots between them; spaces around the parts do not count. -/
def keyParts? (cs : List Char) : Option (List String × List Char) := do
  let (part, rest) ← simpleKey? (skipSpace cs)
  match skipSpace rest with
  | '.' :: after =>
    if after.length < cs.length then
      let (more, rest) ← keyParts? after
      return (part :: more, rest)
    else none
  | rest => return ([part], rest)
termination_by cs.length

/-- The depth at which keys, lists and tables are refused. -/
def depthLimit : Nat := 80

/-- A key: its parts, fewer than the depth limit. -/
def key? (cs : List Char) : Option (List String × List Char) := do
  let (parts, rest) ← keyParts? cs
  if parts.length < depthLimit then return (parts, rest) else none

end ContainerFixture.Toml
