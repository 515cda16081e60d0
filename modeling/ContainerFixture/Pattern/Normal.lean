import ContainerFixture.Pattern

/-!
# Patterns in normal form

The constructions by which patterns are put together. They keep patterns in a normal form, on which
the size of an automaton depends: no row in a row and no choice in a choice, no empty part of a row,
neighbouring characters of a row as one text, a choice between characters as a class, and what all
branches of a choice begin with in front of it.
-/
namespace ContainerFixture.Pattern

open Text

/-! ### Lengths -/

def pointBytes (point : Nat) : Nat :=
  if point < 0x80 then 1 else if point < 0x800 then 2 else if point < 0x10000 then 3 else 4

def textBytes (text : List Char) : Nat := text.foldl (fun total c => total + c.utf8Size) 0

mutual

/-- The fewest bytes that a pattern can match, if it can match at all. -/
def minLength : Pattern → Option Nat
  | empty | look _ => some 0
  | literal text => some (textBytes text)
  | char set => set.ranges.head?.map fun r => pointBytes r.first
  | seq parts => minLengthAll parts
  | alt branches => minLengthAny branches
  | again body least _ _ => body.minLength.map (· * least)
  | group body => body.minLength

def minLengthAll : List Pattern → Option Nat
  | [] => some 0
  | p :: rest => do return (← p.minLength) + (← minLengthAll rest)

def minLengthAny : List Pattern → Option Nat
  | [] => none
  | [p] => p.minLength
  | p :: rest => do return min (← p.minLength) (← minLengthAny rest)

end

mutual

/-- The most bytes that a pattern can match, if it can match at all and there is a bound. -/
def maxLength : Pattern → Option Nat
  | empty | look _ => some 0
  | literal text => some (textBytes text)
  | char set => set.ranges.getLast?.map fun r => pointBytes r.last
  | seq parts => maxLengthAll parts
  | alt branches => maxLengthAny branches
  | again body _ most _ => do return (← body.maxLength) * (← most)
  | group body => body.maxLength

def maxLengthAll : List Pattern → Option Nat
  | [] => some 0
  | p :: rest => do return (← p.maxLength) + (← maxLengthAll rest)

def maxLengthAny : List Pattern → Option Nat
  | [] => none
  | [p] => p.maxLength
  | p :: rest => do return max (← p.maxLength) (← maxLengthAny rest)

end

/-! ### Patterns alike -/

mutual

/-- Whether two patterns are written alike. Groups are not: each remembers a match of its own. -/
def alike : Pattern → Pattern → Bool
  | empty, empty => true
  | literal s, literal t => s == t
  | char s, char t => s == t
  | look r, look s => r == s
  | seq ps, seq qs => alikeAll ps qs
  | alt ps, alt qs => alikeAll ps qs
  | again p least most greedy, again q least' most' greedy' =>
    least == least' && most == most' && greedy == greedy' && p.alike q
  | _, _ => false

def alikeAll : List Pattern → List Pattern → Bool
  | [], [] => true
  | p :: ps, q :: qs => p.alike q && alikeAll ps qs
  | _, _ => false

end

/-! ### Constructions -/

/-- One character of a class. A class of one character is that character. -/
def ofSet (set : CharSet) : Pattern :=
  match set.ranges with
  | [r] => if r.first = r.last then literal [Char.ofNat r.first] else char set
  | _ => char set

/-- The parts of a pattern that may be a row. -/
def parts : Pattern → List Pattern
  | empty => []
  | seq ps => ps
  | p => [p]

/-- Puts a pattern before a row, whose first part it may join. -/
def before : Pattern → List Pattern → List Pattern
  | literal s, literal t :: rest => literal (s ++ t) :: rest
  | p, rest => p :: rest

/-- Patterns one after the other. -/
def row (ps : List Pattern) : Pattern :=
  match (ps.flatMap parts).foldr before [] with
  | [] => empty
  | [p] => p
  | ps => seq ps

/-- The branches of a pattern that may be a choice. -/
def branches : Pattern → List Pattern
  | alt ps => ps
  | p => [p]

/-- The class of a pattern that is one character. -/
def oneChar? : Pattern → Option CharSet
  | literal [c] => some (.span c.toNat c.toNat)
  | _ => none

/-- The class of a pattern that is a class. -/
def class? : Pattern → Option CharSet
  | char set => some set
  | _ => none

/-- One of several patterns: a class if all of them are characters, or all of them are classes. -/
def merged (ps : List Pattern) : Option Pattern :=
  ((ps.mapM oneChar?).or (ps.mapM class?)).map fun sets => ofSet (.unions sets)

/-- How many parts two rows have in common from the start. -/
def commonLength : List Pattern → List Pattern → Nat
  | p :: ps, q :: qs => if p.alike q then commonLength ps qs + 1 else 0
  | _, _ => 0

/-- How many parts all branches have in common from the start, if all of them are rows. -/
def commonParts : List Pattern → Nat
  | seq first :: rest =>
    (rest.foldl (fun n p =>
      match p with
      | seq ps => min n (commonLength first ps)
      | _ => 0) first.length)
  | _ => 0

def either (ps : List Pattern) : Pattern :=
  match ps.flatMap branches with
  | [] => char ∅
  | [p] => p
  | ps => (merged ps).getD (alt ps)

/-- One of several patterns. -/
def choice (ps : List Pattern) : Pattern :=
  match either ps with
  | alt ps =>
    match commonParts ps, ps with
    | n + 1, first :: _ =>
      row (first.parts.take (n + 1) ++ [either (ps.map fun p => row (p.parts.drop (n + 1)))])
    | _, _ => alt ps
  | p => p

/-- A pattern over and over. What matches nothing but the empty text need not be repeated. -/
def repeated (body : Pattern) (least : Nat) (most : Option Nat) (greedy : Bool) : Pattern :=
  let (least, most) :=
    if body.maxLength = some 0 then (min least 1, some (min (most.getD 1) 1)) else (least, most)
  if most = some 0 then empty
  else if least = 1 ∧ most = some 1 then body
  else again body least most greedy

end ContainerFixture.Pattern
