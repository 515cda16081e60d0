import ContainerFixture.Pattern.Normal
import ContainerFixture.Text.ByteRows
import Std.Data.HashMap

/-!
# The size of a pattern

A pattern is recognised by an automaton over bytes, once forward and once backward, and is refused
when either automaton would be too large. Nothing here builds one: a `Draft` counts the states that
it would have, and the bytes that they would take. States are numbered in the order in which they
arise, since classes share the states that they have in common by means of tables that are looked up
by number.

A state takes thirty-two bytes; one that goes on in several ways takes more for each way.
-/
namespace ContainerFixture.Pattern

open Text

/-- An automaton being put together: the number of its states, and the bytes that they take beyond
those that every state takes. -/
structure Draft where
  states : Nat := 0
  extra : Nat := 0
deriving DecidableEq, Repr

/-- The bytes that every state takes. -/
def stateBytes : Nat := 32

/-- The bytes for a way out of a state that is taken on some bytes. -/
def transitionBytes : Nat := 8

/-- The bytes for a way out of a state that branches. -/
def branchBytes : Nat := 4

/-- How many bytes an automaton may take: 10 MiB. -/
def sizeLimit : Nat := 10485760

namespace Draft

def bounded (draft : Draft) : Option Draft :=
  if stateBytes * draft.states + draft.extra ≤ sizeLimit then some draft else none

/-- A draft with some more states, which take some bytes beyond those that every state takes. -/
def grow (draft : Draft) (states extra : Nat) : Option Draft :=
  bounded ⟨draft.states + states, draft.extra + extra⟩

end Draft

/-- How a part of an automaton ends: in a state with one way out, which is left open, or in one that
branches, to which another way is added. -/
inductive Joint where
  | plain
  | branching
deriving DecidableEq, Repr

/-- Puts a part into a draft. -/
abbrev Layout := Draft → Option (Joint × Draft)

namespace Layout

def states (count : Nat) : Layout := fun draft => do
  return (.plain, ← draft.grow count 0)

/-- Leads on from the end of a part. -/
def link (joint : Joint) (draft : Draft) : Option Draft :=
  match joint with
  | .plain => some draft
  | .branching => draft.grow 0 branchBytes

def andThen (first second : Layout) : Layout := fun draft => do
  let (joint, draft) ← first draft
  let (last, draft) ← second draft
  return (last, ← link joint draft)

/-- Parts after one another, the first of which is there already. -/
def onward : List Layout → Joint → Layout
  | [], joint, draft => some (joint, draft)
  | layout :: rest, joint, draft =>
    match layout draft with
    | none => none
    | some (next, draft) =>
      match link joint draft with
      | none => none
      | some draft => onward rest next draft

def inRow : List Layout → Layout
  | [] => states 1
  | layout :: rest => fun draft => do
    let (joint, draft) ← layout draft
    onward rest joint draft

/-- A part some more times. -/
def more (layout : Layout) : Nat → Joint → Layout
  | 0, joint, draft => some (joint, draft)
  | n + 1, joint, draft =>
    match layout draft with
    | none => none
    | some (next, draft) =>
      match link joint draft with
      | none => none
      | some draft => more layout n next draft

/-- A part so many times. -/
def copies (layout : Layout) : Nat → Layout
  | 0 => states 1
  | n + 1 => fun draft => do
    let (joint, draft) ← layout draft
    more layout n joint draft

/-- A branching state, then a part to which one of its ways leads; the other is open. -/
def optional (layout : Layout) : Layout := fun draft => do
  let draft ← draft.grow 1 (2 * branchBytes)
  layout draft

/-- A part, or nothing. -/
def atMostOnce (layout : Layout) : Layout := fun draft => do
  let (joint, draft) ← optional layout draft
  let draft ← draft.grow 1 0
  return (.plain, ← link joint draft)

/-- A part up to so many more times, where each time may be the last. -/
def upTo (layout : Layout) : Nat → Joint → Layout
  | 0, joint, draft => do return (.plain, ← link joint draft)
  | n + 1, joint, draft =>
    match optional layout draft with
    | none => none
    | some (next, draft) =>
      match link joint draft with
      | none => none
      | some draft => upTo layout n next draft

/-- A part any number of times. Where the part may match nothing, trying it comes before leaving it
out. -/
def anyTimes (layout : Layout) (consumes : Bool) : Layout := fun draft => do
  if consumes then
    let draft ← draft.grow 1 branchBytes
    let (joint, draft) ← layout draft
    return (.branching, ← link joint draft)
  else
    let (joint, draft) ← layout draft
    let draft ← draft.grow 3 (4 * branchBytes)
    return (.plain, ← link joint draft)

/-- A part and then, from a branching state, the part again. -/
def andAgain (layout : Layout) : Layout := fun draft => do
  let (joint, draft) ← layout draft
  let draft ← draft.grow 1 branchBytes
  return (.branching, ← link joint draft)

def atLeast (layout : Layout) (consumes : Bool) : Nat → Layout
  | 0 => anyTimes layout consumes
  | 1 => andAgain layout
  | n + 2 => andThen (copies layout (n + 1)) (andAgain layout)

def between (layout : Layout) (least most : Nat) : Layout :=
  if least = 0 ∧ most = 1 then atMostOnce layout
  else if least = most then copies layout least
  else fun draft => do
    let (joint, draft) ← copies layout least draft
    upTo layout (most - least) joint (← draft.grow 1 0)

/-- Joins branches to the state that they all lead to. -/
def joinAll : List Layout → Layout
  | [], draft => some (.plain, draft)
  | layout :: rest, draft =>
    match layout draft with
    | none => none
    | some (joint, draft) =>
      match (draft.grow 0 branchBytes).bind (link joint) with
      | none => none
      | some draft => joinAll rest draft

def oneOf : List Layout → Layout
  | [] => states 1
  | [layout] => layout
  | first :: second :: rest => fun draft => do
    let (joint, draft) ← first draft
    let (joint', draft) ← second draft
    let draft ← draft.grow 2 (2 * branchBytes)
    joinAll rest (← link joint' (← link joint draft))

end Layout

/-! ### Texts to choose from -/

/-- Texts by their first bytes. A text that ends is kept apart from those that come after it and go
on: it closes the bytes before it, of which the newest are first. -/
inductive Trie where
  | node (current : List (Nat × Trie)) (closed : List (List (Nat × Trie)))

namespace Trie

def empty : Trie := node [] []

def isLeaf : Trie → Bool
  | node current closed => current.isEmpty && closed.all List.isEmpty

def update (byte : Nat) (change : Trie → Trie) : List (Nat × Trie) → List (Nat × Trie)
  | [] => [(byte, change empty)]
  | entry :: rest =>
    if entry.1 = byte then (byte, change entry.2) :: rest else entry :: update byte change rest

def insert : List Nat → Trie → Trie
  | [], node current closed =>
    if (node current closed).isLeaf && !closed.isEmpty then node current closed
    else node [] (current :: closed)
  | byte :: rest, node current closed => node (update byte (insert rest) current) closed

mutual

/-- The states of a trie, and the bytes that they take beyond those that every state takes. -/
def size : Trie → Nat × Nat
  | node current closed =>
    let inside := sizeChunks (current :: closed)
    (inside.1 + 1, inside.2 + branchBytes * closed.length)

/-- `size` of bytes that are kept apart: a state for each bundle, and what they lead to. -/
def sizeChunks : List (List (Nat × Trie)) → Nat × Nat
  | [] => (0, 0)
  | chunk :: rest =>
    let inside := sizeEntries chunk
    let later := sizeChunks rest
    let own :=
      if chunk.isEmpty then (0, 0)
      else (1, branchBytes + if chunk.length = 1 then 0 else transitionBytes * chunk.length)
    (own.1 + inside.1 + later.1, own.2 + inside.2 + later.2)

/-- `size` of what bytes lead to. Where a text ends there is no state. -/
def sizeEntries : List (Nat × Trie) → Nat × Nat
  | [] => (0, 0)
  | (_, trie) :: rest =>
    let inside := if trie.isLeaf then (0, 0) else trie.size
    let later := sizeEntries rest
    (inside.1 + later.1, inside.2 + later.2)

end

end Trie

def bytesOf (text : List Char) : List Nat := text.flatMap fun c => encodedPoint c.toNat

/-- The text of a pattern that is one. -/
def text? : Pattern → Option (List Char)
  | literal text => some text
  | _ => none

def layTexts (backward : Bool) (texts : List (List Char)) : Layout := fun draft => do
  let bytes := texts.map fun text => if backward then (bytesOf text).reverse else bytesOf text
  let (states, extra) := (bytes.foldl (fun trie text => trie.insert text) Trie.empty).size
  return (.plain, ← draft.grow (states + 1) extra)

/-! ### Classes -/

/-- A way out of a state: the bytes on which it is taken, and the number of the state it leads
to. -/
structure Transition where
  bytes : Range
  next : Nat
deriving DecidableEq, Repr

/-- A table of states, in slots by what the states do. What is put in a full slot replaces what was
there. -/
abbrev Shared := Std.HashMap Nat (List Transition × Nat)

/-- Mixes a number into a hash. -/
def mix (hash : UInt64) (n : Nat) : UInt64 := (hash ^^^ UInt64.ofNat n) * 1099511628211

def hashSeed : UInt64 := 14695981039346656037

/-- The slot of a state in a table of so many slots. -/
def slotOf (slots : Nat) (state : List Transition) : Nat :=
  (state.foldl (fun hash t => mix (mix (mix hash t.bytes.first) t.bytes.last) t.next)
    hashSeed).toNat % slots

/-- How many slots the table of a class has, read forward. -/
def forwardSlots : Nat := 10000

/-- How many slots the table of a class has, read backward. -/
def backwardSlots : Nat := 1000

/-- The state that does the same as one to be added, if there is one in the table. -/
def Shared.find? (shared : Shared) (slot : Nat) (state : List Transition) : Option Nat :=
  match shared.get? slot with
  | some (other, number) => if other = state then some number else none
  | none => none

/-- The number of a state with some ways out, which is added unless there is one. -/
def shareState (state : List Transition) (shared : Shared) (draft : Draft) :
    Option (Nat × Shared × Draft) :=
  let slot := slotOf forwardSlots state
  match shared.find? slot state with
  | some number => some (number, shared, draft)
  | none => do
    let grown ← draft.grow 1 (transitionBytes * state.length)
    return (draft.states, shared.insert slot (state, draft.states), grown)

/-- Rows by their first ranges: those next to each other that begin alike are taken together. -/
def bundled : List ByteRow → List (Range × List ByteRow)
  | [] => []
  | [] :: rows => bundled rows
  | (bytes :: row) :: rows =>
    match bundled rows with
    | (other, others) :: bundles =>
      if other = bytes then (bytes, row :: others) :: bundles
      else (bytes, [row]) :: (other, others) :: bundles
    | [] => [(bytes, [row])]

/-- The state from which rows of at most so many bytes lead to the end of a class. -/
def layRows (target : Nat) : Nat → List ByteRow → Shared → Draft → Option (Nat × Shared × Draft)
  | 0, _, shared, draft => some (target, shared, draft)
  | depth + 1, rows, shared, draft => do
    let (state, shared, draft) ← (bundled rows).foldlM (fun (state, shared, draft) bundle => do
      let (next, shared, draft) ←
        if bundle.2.all List.isEmpty then some (target, shared, draft)
        else layRows target depth bundle.2 shared draft
      return (⟨bundle.1, next⟩ :: state, shared, draft)) ([], shared, draft)
    shareState state.reverse shared draft

/-- Reads a row backward from the end of a class, sharing the states that were added before. -/
def layRowBack : ByteRow → Nat → Shared → Draft → Option (Nat × Shared × Draft)
  | [], next, shared, draft => some (next, shared, draft)
  | bytes :: row, next, shared, draft =>
    let state : List Transition := [⟨bytes, next⟩]
    let slot := (mix (mix (mix hashSeed next) bytes.first) bytes.last).toNat % backwardSlots
    match shared.find? slot state with
    | some number => layRowBack row number shared draft
    | none =>
      match draft.grow 1 0 with
      | none => none
      | some grown =>
        layRowBack row draft.states (shared.insert slot (state, draft.states)) grown

/-- Rows read backward, each of them a branch. -/
def layRowsBack (target : Nat) : List ByteRow → Shared → Draft → Option Draft
  | [], _, draft => some draft
  | row :: rows, shared, draft =>
    match layRowBack row target shared draft with
    | none => none
    | some (_, shared, draft) =>
      match draft.grow 0 branchBytes with
      | none => none
      | some draft => layRowsBack target rows shared draft

def laySet (backward : Bool) (set : CharSet) : Layout := fun draft => do
  if set.ranges.all (·.last < 0x80) then
    return (.plain, ← draft.grow 2 (transitionBytes * set.ranges.length))
  else if backward then
    let target := draft.states + 1
    return (.plain, ← layRowsBack target set.byteRows {} (← draft.grow 2 0))
  else
    let (_, _, draft) ← layRows draft.states 4 set.byteRows {} (← draft.grow 1 0)
    return (.plain, draft)

/-! ### Patterns -/

mutual

/-- The layout of a pattern, read forward or backward. -/
def layout (backward : Bool) : Pattern → Layout
  | empty => .states 1
  | literal text => .states (textBytes text)
  | char set => laySet backward set
  | look _ => .states 1
  | seq parts =>
    let parts := layouts backward parts
    .inRow (if backward then parts.reverse else parts)
  | alt branches =>
    match branches.mapM text? with
    | some texts => layTexts backward texts
    | none => .oneOf (layouts backward branches)
  | again body least most _ =>
    let consumes := body.minLength.any (0 < ·)
    match most with
    | none => .atLeast (layout backward body) consumes least
    | some most => .between (layout backward body) least most
  | group body =>
    if backward then layout backward body
    else .inRow [.states 1, layout backward body, .states 1]

def layouts (backward : Bool) : List Pattern → List Layout
  | [] => []
  | p :: rest => layout backward p :: layouts backward rest

end

/-! ### Anchors -/

mutual

/-- Whether every match of a pattern starts, or ends, where a look is required. -/
def anchored (atEnd : Bool) (required : Look) : Pattern → Bool
  | look other => other = required
  | seq parts => anchoredAll atEnd required parts
  | alt branches => anchoredAny atEnd required branches
  | again body least _ _ => 0 < least && anchored atEnd required body
  | group body => anchored atEnd required body
  | _ => false

/-- `anchored` for patterns one after the other: what counts is the outermost one that can match
more than the empty text, and those outside it. -/
def anchoredAll (atEnd : Bool) (required : Look) : List Pattern → Bool
  | [] => false
  | p :: rest =>
    let here := anchored atEnd required p
    let there := anchoredAll atEnd required rest
    if atEnd then there || (here && maxLengthAll rest = some 0)
    else here || (p.maxLength = some 0 && there)

def anchoredAny (atEnd : Bool) (required : Look) : List Pattern → Bool
  | [] => true
  | p :: rest => anchored atEnd required p && anchoredAny atEnd required rest

end

/-- What comes before a pattern that may begin anywhere: any bytes. -/
def layStart (isAnchored : Bool) : Layout := fun draft => do
  if isAnchored then return (.plain, ← draft.grow 1 0)
  else return (.branching, ← draft.grow 3 (transitionBytes + branchBytes))

/-- The whole automaton that reads a pattern forward, or backward. -/
def layWhole (backward : Bool) (p : Pattern) : Layout :=
  let isAnchored := p.anchored backward (if backward then .textEnd else .textStart)
  let inside := if backward then layout true p else layout false (group p)
  .inRow [layStart isAnchored, inside, .states 1]

/-- Whether the automata of a pattern are not too large. -/
def fits (p : Pattern) : Bool := (layWhole false p {}).isSome && (layWhole true p {}).isSome

end ContainerFixture.Pattern
