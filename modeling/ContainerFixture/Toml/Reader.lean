import ContainerFixture.Toml.Scalar
import ContainerFixture.Toml.Tree

/-!
# Reading TOML

TOML 1.0. `read?` gives the entries of a document in the order in which they arose, or nothing when
the text is not TOML: when a lexeme is malformed, when something is given twice, when a number does
not fit 64 bits or when values nest too deep.
-/
namespace ContainerFixture.Toml

open Document

/-! ### Values -/

/-- The items of a list after its opening bracket, and the rest after its closing one. A comma may
follow the last item. -/
def items (value : List Char → Option (Value × List Char)) (cs : List Char) :
    Option (List Value × List Char) :=
  match skipLines cs with
  | ']' :: rest => some ([], rest)
  | start => do
    let (v, rest) ← value start
    match skipLines rest with
    | ']' :: after => return ([v], after)
    | ',' :: after =>
      if after.length < cs.length then
        let (more, rest) ← items value after
        return (v :: more, rest)
      else none
    | _ => none
termination_by cs.length

/-- A key, an equals sign and a value, with the spaces around them. -/
def pair? (value : List Char → Option (Value × List Char)) (cs : List Char) :
    Option ((List String × Value) × List Char) := do
  let (key, rest) ← key? cs
  match rest with
  | '=' :: after =>
    let (v, rest) ← value (skipSpace after)
    return ((key, v), skipSpace rest)
  | _ => none

/-- The pairs of a table after its opening brace, and the rest after its closing one. There is at
least one. -/
def pairs (value : List Char → Option (Value × List Char)) (cs : List Char) :
    Option (List (List String × Value) × List Char) := do
  let (first, rest) ← pair? value cs
  match rest with
  | '\x7d' :: after => return ([first], after)
  | ',' :: after =>
    if after.length < cs.length then
      let (more, rest) ← pairs value after
      return (first :: more, rest)
    else none
  | _ => none
termination_by cs.length

/-- The rest of a table after its opening brace. -/
def braced? (value : List Char → Option (Value × List Char)) (cs : List Char) :
    Option (Value × List Char) :=
  match skipSpace cs with
  | '\x7d' :: rest => some (.table [], rest)
  | start => do
    let (entries, rest) ← pairs value start
    return (← inlineTable? entries, rest)

/-- A value in which no more than `depth` brackets and braces are open at a time. -/
def value? : Nat → List Char → Option (Value × List Char)
  | depth, '[' :: rest =>
    match depth with
    | 0 => none
    | depth + 1 => (items (value? depth) rest).map fun read => (.list read.1, read.2)
  | depth, '\x7b' :: rest =>
    match depth with
    | 0 => none
    | depth + 1 => braced? (value? depth) rest
  | _, '"' :: rest => (string? ('"' :: rest)).map fun read => (.text (String.ofList read.1), read.2)
  | _, '\'' :: rest =>
    (string? ('\'' :: rest)).map fun read => (.text (String.ofList read.1), read.2)
  | _, cs => scalar? cs

def value : List Char → Option (Value × List Char) := value? (depthLimit - 1)

/-! ### Documents -/

/-- The path of a header after its opening bracket, which `closing` ends. -/
def header? (closing : List Char) (cs : List Char) : Option (List String × List Char) := do
  let (path, rest) ← key? cs
  if closing.isPrefixOf rest then return (path, ← statementEnd? (rest.drop closing.length))
  else none

/-- Reads a statement at the start of a line, or the rest of an empty line. -/
def statement? (draft : Draft) (cs : List Char) : Option (Draft × List Char) :=
  match cs with
  | '#' :: _ => (lineEnd? (skipComment cs)).map fun rest => (draft, rest)
  | '[' :: '[' :: rest => do
    let (path, rest) ← header? [']', ']'] rest
    return (← draft.beginRow path, rest)
  | '[' :: rest => do
    let (path, rest) ← header? [']'] rest
    return (← draft.beginTable path, rest)
  | _ =>
    match newline? cs with
    | some rest => some (draft, rest)
    | none => do
      let ((key, v), rest) ← pair? value cs
      return (← draft.insert key v, ← statementEnd? rest)

/-- Reads statements up to the end of the text. -/
def statements? (draft : Draft) (cs : List Char) : Option Draft :=
  match skipSpace cs with
  | [] => some draft
  | start => do
    let (draft, rest) ← statement? draft start
    if rest.length < cs.length then statements? draft rest else none
termination_by cs.length

/-- The document of a TOML text. A byte order mark at its start does not count. -/
def read? (text : String) : Option Value := do
  let cs := match text.toList with
    | '\uFEFF' :: rest => rest
    | cs => cs
  let draft ← statements? .empty cs
  return .table (nodeEntries (← draft.settled))

end ContainerFixture.Toml
