import ContainerFixture.Document.Value

/-!
# The tables of a TOML document

Tables arise in three ways: by a header, by standing on the way to another header, and by a dotted
key. How a table arose decides what may still be added to it, and no part of a document may be
given twice. Entries keep the order in which they arose; a table that a header declares after it
was implied moves to the end.
-/
namespace ContainerFixture.Toml

open Document

/-- How a table arose. -/
inductive Standing where
  /-- By a header of its own, or between braces. -/
  | declared
  /-- On the way to another header. -/
  | implied
  /-- On the way of a dotted key. -/
  | dotted
  deriving DecidableEq, Repr

/-- What a key of an unfinished document stands for. -/
inductive Node where
  | leaf (v : Value)
  | table (standing : Standing) (entries : List (String × Node))
  /-- The tables that headers in double brackets declared, in order. -/
  | rows (tables : List (List (String × Node)))

/-- The entries of an unfinished table. -/
abbrev Nodes := List (String × Node)

mutual

/-- A finished document's value. -/
def Node.value : Node → Value
  | .leaf v => v
  | .table _ entries => .table (nodeEntries entries)
  | .rows tables => .rows (nodeRows tables)

def nodeEntries : List (String × Node) → List (String × Value)
  | [] => []
  | (key, node) :: rest => (key, node.value) :: nodeEntries rest

def nodeRows : List (List (String × Node)) → List Value
  | [] => []
  | entries :: rest => .table (nodeEntries entries) :: nodeRows rest

end

namespace Nodes

/-- Puts a node in the place of the one that a key stands for. -/
def replace (key : String) (node : Node) (entries : Nodes) : Nodes :=
  entries.map fun entry => if entry.1 = key then (key, node) else entry

/-- Changes the table at the end of a path, and gives what the change gives. Tables that are
missing on the way arise with the standing `missing`; of tables in a row the last one is meant.
Values have no tables in them, and a dotted key does not enter tables that a header declared. -/
def within {α : Type} (missing : Standing) :
    List String → (Standing → Nodes → Option (α × Nodes)) → Standing → Nodes →
      Option (α × Nodes)
  | [], change, standing, entries => change standing entries
  | key :: path, change, _, entries =>
    match entries.lookup key with
    | none => do
      let (given, inner) ← within missing path change missing []
      return (given, entries ++ [(key, .table missing inner)])
    | some (.leaf _) => none
    | some (.table standing inner) =>
      if missing = .dotted ∧ standing = .declared then none
      else do
        let (given, inner) ← within missing path change standing inner
        return (given, replace key (.table standing inner) entries)
    | some (.rows tables) => do
      let (given, inner) ← within missing path change .declared (← tables.getLast?)
      return (given, replace key (.rows (tables.dropLast ++ [inner])) entries)

/-- Adds a key with its value to a table that is declared. The parts of the key before the last
lead to tables that dotted keys made, and no key is given twice. -/
def insert (key : List String) (v : Value) (entries : Nodes) : Option Nodes := do
  let name ← key.getLast?
  let path := key.dropLast
  let add := fun (standing : Standing) (inner : Nodes) =>
    if (standing == .dotted) == path.isEmpty || (inner.lookup name).isSome then none
    else some ((), inner ++ [(name, .leaf v)])
  let (_, changed) ← within .dotted path add .declared entries
  return changed

end Nodes

/-- The table between braces, given the keys in it with their values. -/
def inlineTable? (pairs : List (List String × Value)) : Option Value :=
  (pairs.foldlM (fun entries pair => Nodes.insert pair.1 pair.2 entries) []).map
    fun entries => .table (nodeEntries entries)

/-- A document being read: the tables that have their place, and the table of the last header with
its path, which gets its place when the next header comes. -/
structure Draft where
  root : Nodes
  current : Nodes
  path : List String
  inRow : Bool

namespace Draft

def empty : Draft := ⟨[], [], [], false⟩

/-- Adds a key with its value to the table of the last header. -/
def insert (draft : Draft) (key : List String) (v : Value) : Option Draft :=
  (Nodes.insert key v draft.current).map fun current => { draft with current }

/-- The tables of the document, that of the last header among them. -/
def settled (draft : Draft) : Option Nodes :=
  match draft.path.getLast? with
  | none => some draft.current
  | some name =>
    let place := fun (_ : Standing) (entries : Nodes) =>
      match entries.lookup name, draft.inRow with
      | none, false => some ((), entries ++ [(name, .table .declared draft.current)])
      | some (.rows tables), true =>
        some ((), Nodes.replace name (.rows (tables ++ [draft.current])) entries)
      | _, _ => none
    (Nodes.within .implied draft.path.dropLast place .declared draft.root).map (·.2)

/-- Begins the table of a header. It may be implied already, and then keeps what it holds. -/
def beginTable (draft : Draft) (path : List String) : Option Draft := do
  let root ← draft.settled
  let name ← path.getLast?
  let take := fun (_ : Standing) (entries : Nodes) =>
    match entries.lookup name with
    | none => some ([], entries)
    | some (.table .implied inner) => some (inner, entries.filter fun entry => entry.1 ≠ name)
    | _ => none
  let (current, root) ← Nodes.within .implied path.dropLast take .declared root
  return ⟨root, current, path, false⟩

/-- Begins a further table of a row. -/
def beginRow (draft : Draft) (path : List String) : Option Draft := do
  let root ← draft.settled
  let name ← path.getLast?
  let start := fun (_ : Standing) (entries : Nodes) =>
    match entries.lookup name with
    | none => some ((), entries ++ [(name, .rows [])])
    | some (.rows _) => some ((), entries)
    | _ => none
  let (_, root) ← Nodes.within .implied path.dropLast start .declared root
  return ⟨root, [], path, true⟩

end Draft

end ContainerFixture.Toml
