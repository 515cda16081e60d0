import ContainerFixture.Document.Value
import ContainerFixture.Number.Scaled
import ContainerFixture.Text.PointSet

/-!
# JSON

Reading and writing documents as JSON. A table read from JSON is sorted by key, and of several
entries of one key the last counts. Numbers without fraction and exponent that fit 64 bits are
integers; all others, and the negative zero, are reals, and are read quickly rather than to the last
bit.
-/
namespace ContainerFixture.Document.Json

open ContainerFixture.Text ContainerFixture.Number

/-! ### Reading -/

def skipBlank (cs : List Char) : List Char :=
  cs.dropWhile fun c => c = ' ' || c = '\n' || c = '\r' || c = '\t'

/-- The number that four hexadecimal digits write. -/
def hex4 (a b c d : Char) : Option Nat := do
  return (((← hexDigit? a) * 16 + (← hexDigit? b)) * 16 + (← hexDigit? c)) * 16 + (← hexDigit? d)

def escaped? : Char → Option Char
  | '"' => some '"'
  | '\\' => some '\\'
  | '/' => some '/'
  | 'b' => some '\x08'
  | 'f' => some '\x0C'
  | 'n' => some '\n'
  | 'r' => some '\r'
  | 't' => some '\t'
  | _ => none

/-- Whether a number is the first half of a pair that writes one character. -/
def isLeading (n : Nat) : Bool := 0xD800 ≤ n && n ≤ 0xDBFF

/-- Whether a number is the second half of a pair that writes one character. -/
def isTrailing (n : Nat) : Bool := 0xDC00 ≤ n && n ≤ 0xDFFF

/-- The characters of a string after its opening quote, and the rest after its closing quote. -/
def stringBody : List Char → Option (List Char × List Char)
  | '"' :: rest => some ([], rest)
  | '\\' :: 'u' :: a :: b :: c :: d :: '\\' :: 'u' :: e :: f :: g :: h :: rest => do
    let first ← hex4 a b c d
    let second ← hex4 e f g h
    if isLeading first && isTrailing second then
      let point := 0x10000 + (first - 0xD800) * 0x400 + (second - 0xDC00)
      let (more, after) ← stringBody rest
      return (Char.ofNat point :: more, after)
    else if isLeading first || isTrailing first then none
    else
      let (more, after) ← stringBody ('\\' :: 'u' :: e :: f :: g :: h :: rest)
      return (Char.ofNat first :: more, after)
  | '\\' :: 'u' :: a :: b :: c :: d :: rest => do
    let point ← hex4 a b c d
    if isLeading point || isTrailing point then none
    else
      let (more, after) ← stringBody rest
      return (Char.ofNat point :: more, after)
  | '\\' :: c :: rest => do
    let plain ← escaped? c
    let (more, after) ← stringBody rest
    return (plain :: more, after)
  | c :: rest =>
    if c.toNat < 0x20 || c = '\\' then none
    else do
      let (more, after) ← stringBody rest
      return (c :: more, after)
  | [] => none

/-- The value of a numeral: its sign, the digits before and after the point, and its exponent. -/
def numberValue? (negative : Bool) (whole fraction : List Char) (exponent : Option Int) :
    Option Value :=
  let n := Scaled.addWhole {} whole
  let isWhole := fraction.isEmpty && exponent.isNone && n.exponent = 0
  if isWhole && !negative then some (.integer n.significand)
  else if isWhole && n.significand ≠ 0 && n.significand ≤ UInt64.size / 2 then
    some (.integer (-(n.significand : Int)))
  else
    let n := n.addFraction fraction
    let scaled := { n with exponent := n.exponent + exponent.getD 0 }
    scaled.toFloat?.map fun x => .real (if negative then -x else x)

def exponentPart : List Char → Option (Option Int × List Char)
  | c :: rest =>
    if c = 'e' || c = 'E' then
      let (negative, unsigned) := match rest with
        | '-' :: more => (true, more)
        | '+' :: more => (false, more)
        | more => (false, more)
      let (digits, after) := unsigned.span Char.isDigit
      if digits.isEmpty then none
      else
        let n := digits.foldl (fun n c => n * 10 + (c.toNat - '0'.toNat)) 0
        some (some (if negative then -(n : Int) else n), after)
    else some (none, c :: rest)
  | [] => some (none, [])

/-- A number, without its sign. -/
def number (negative : Bool) (cs : List Char) : Option (Value × List Char) :=
  let (whole, rest) := cs.span Char.isDigit
  if whole.isEmpty || (whole.head? = some '0' && whole.length ≠ 1) then none
  else do
    let (fraction, rest) ← match rest with
      | '.' :: more =>
        let (digits, after) := more.span Char.isDigit
        if digits.isEmpty then none else some (digits, after)
      | _ => some ([], rest)
    let (exponent, rest) ← exponentPart rest
    return (← numberValue? negative whole fraction exponent, rest)

/-- Items with commas between them, up to a closing bracket, which is read too. -/
def items {α : Type} (item : List Char → Option (α × List Char)) (close : Char) (cs : List Char) :
    Option (List α × List Char) :=
  match item cs with
  | none => none
  | some (x, rest) =>
    match skipBlank rest with
    | [] => none
    | c :: after =>
      if c = close then some ([x], after)
      else if c = ',' ∧ after.length < cs.length then
        (items item close after).map fun read => (x :: read.1, read.2)
      else none
termination_by cs.length
decreasing_by rename_i progress; exact progress.2

def itemsOrNone {α : Type} (item : List Char → Option (α × List Char)) (close : Char)
    (cs : List Char) : Option (List α × List Char) :=
  match skipBlank cs with
  | [] => none
  | c :: after => if c = close then some ([], after) else items item close (c :: after)

/-- A key, a colon and a value. -/
def entry (item : List Char → Option (Value × List Char)) (cs : List Char) :
    Option ((String × Value) × List Char) := do
  match skipBlank cs with
  | '"' :: rest =>
    let (key, rest) ← stringBody rest
    match skipBlank rest with
    | ':' :: rest =>
      let (v, rest) ← item rest
      return ((String.ofList key, v), rest)
    | _ => none
  | _ => none

/-- A value in which no more than `depth` brackets are open at a time. -/
def value : Nat → List Char → Option (Value × List Char)
  | 0, _ => none
  | depth + 1, cs =>
    match skipBlank cs with
    | '"' :: rest => (stringBody rest).map fun read => (.text (String.ofList read.1), read.2)
    | '[' :: rest => (itemsOrNone (value depth) ']' rest).map fun read => (.list read.1, read.2)
    | '\x7b' :: rest =>
      (itemsOrNone (entry (value depth)) '\x7d' rest).map fun read =>
        (.table (sortEntries read.1), read.2)
    | 'n' :: 'u' :: 'l' :: 'l' :: rest => some (.null, rest)
    | 't' :: 'r' :: 'u' :: 'e' :: rest => some (.flag true, rest)
    | 'f' :: 'a' :: 'l' :: 's' :: 'e' :: rest => some (.flag false, rest)
    | '-' :: rest => number true rest
    | rest => number false rest

def maxDepth : Nat := 128

def read? (s : String) : Option Value := do
  let (v, rest) ← value maxDepth s.toList
  if (skipBlank rest).isEmpty then return v else none

/-! ### Writing -/

/-- A character inside the quotes of a string. -/
def writtenChar (c : Char) : String :=
  match c with
  | '"' => "\\\""
  | '\\' => "\\\\"
  | '\x08' => "\\b"
  | '\x0C' => "\\f"
  | '\n' => "\\n"
  | '\r' => "\\r"
  | '\t' => "\\t"
  | _ =>
    if c.toNat < 0x20 then
      "\\u00" ++ (if c.toNat < 0x10 then "0" else "") ++ hex c.toNat
    else c.toString

def writtenText (s : String) : String :=
  "\"" ++ String.join (s.toList.map writtenChar) ++ "\""

def writtenLeaf : Value → String
  | .flag true => "true"
  | .flag false => "false"
  | .integer n => toString n
  | .real x => Number.floatText .compact x
  | .text s | .moment s => writtenText s
  | _ => "null"

mutual

/-- A value on one line, without blanks. -/
def compact : Value → String
  | .list items | .rows items => "[" ++ ",".intercalate (compactItems items) ++ "]"
  | .table entries => "\x7b" ++ ",".intercalate (compactEntries entries) ++ "\x7d"
  | v => writtenLeaf v

def compactItems : List Value → List String
  | [] => []
  | v :: rest => compact v :: compactItems rest

def compactEntries : List (String × Value) → List String
  | [] => []
  | (key, v) :: rest => (writtenText key ++ ":" ++ compact v) :: compactEntries rest

end

/-- A line feed and the blanks of an indentation. -/
def lineBreak (depth : Nat) : String := "\n" ++ String.ofList (List.replicate (2 * depth) ' ')

/-- Lines between brackets, each indented one level deeper than the brackets. -/
def bracketed (opening closing : String) (depth : Nat) (members : List String) : String :=
  if members.isEmpty then opening ++ closing
  else
    let inner := lineBreak (depth + 1)
    opening ++ inner ++ ("," ++ inner).intercalate members ++ lineBreak depth ++ closing

mutual

/-- A value over several lines, two blanks for each level; `depth` is the level it stands at. -/
def prettyAt (depth : Nat) : Value → String
  | .list items | .rows items => bracketed "[" "]" depth (prettyItems (depth + 1) items)
  | .table entries => bracketed "\x7b" "\x7d" depth (prettyEntries (depth + 1) entries)
  | v => writtenLeaf v

def prettyItems (depth : Nat) : List Value → List String
  | [] => []
  | v :: rest => prettyAt depth v :: prettyItems depth rest

def prettyEntries (depth : Nat) : List (String × Value) → List String
  | [] => []
  | (key, v) :: rest =>
    (writtenText key ++ ": " ++ prettyAt depth v) :: prettyEntries depth rest

end

def pretty (v : Value) : String := prettyAt 0 v

end ContainerFixture.Document.Json
