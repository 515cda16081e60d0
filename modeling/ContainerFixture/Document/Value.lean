import ContainerFixture.Number.Shortest
import ContainerFixture.Text.Quoted

/-!
# Documents

What a structured document holds, whichever format it was read from. JSON has no dates and TOML has
no null, and neither keeps a number's notation: integers and numbers with a fraction or an exponent
stay apart.
-/
namespace ContainerFixture.Document

inductive Value where
  | null
  | flag (b : Bool)
  | integer (n : Int)
  | real (x : Float)
  | text (s : String)
  /-- A date, a time of day or both, in its normal form. -/
  | moment (s : String)
  | list (items : List Value)
  /-- A list of tables, each written under a header of its own. -/
  | rows (tables : List Value)
  | table (entries : List (String × Value))
  deriving Inhabited, Repr

/-- The entries of a table. -/
abbrev Entries := List (String × Value)

/-- Puts an entry into a table sorted by key; an earlier entry of the key is replaced. -/
def put (key : String) (v : Value) : Entries → Entries
  | [] => [(key, v)]
  | entry :: rest =>
    if key < entry.1 then (key, v) :: entry :: rest
    else if key = entry.1 then (key, v) :: rest
    else entry :: put key v rest

/-- Entries sorted by key; of several entries of one key the last counts. -/
def sortEntries (entries : Entries) : Entries :=
  entries.foldl (fun table entry => put entry.1 entry.2 table) []

namespace Value

mutual

/-- The value with the entries of every table in it sorted by key. -/
def sorted : Value → Value
  | list items => list (sortedItems items)
  | rows tables => rows (sortedItems tables)
  | table entries => table (sortEntries (sortedEntries entries))
  | v => v

def sortedItems : List Value → List Value
  | [] => []
  | v :: rest => v.sorted :: sortedItems rest

def sortedEntries : List (String × Value) → List (String × Value)
  | [] => []
  | (key, v) :: rest => (key, v.sorted) :: sortedEntries rest

end

def natural (n : Nat) : Value := integer n

def texts (items : List String) : Value := list (items.map text)

/-- A value that may be absent, with null in its place. -/
def ofOption {α : Type} (f : α → Value) : Option α → Value
  | some a => f a
  | none => null

end Value

end ContainerFixture.Document
