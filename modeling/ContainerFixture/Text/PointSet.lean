import ContainerFixture.Text.Split

/-!
# Sets of code points

Properties of characters are sets of code points. They are written as tables: hexadecimal code
points and ranges of them, separated by spaces and line ends. A set keeps its ranges in ascending
order with gaps between them, and every operation gives such a set whatever the order and the
overlaps of the ranges that it is given.
-/
namespace ContainerFixture.Text

/-- The code points from `first` to `last`, both included. -/
structure Range where
  first : Nat
  last : Nat
  deriving DecidableEq, Repr

def Range.covers (r : Range) (point : Nat) : Bool := r.first ≤ point && point ≤ r.last

/-- A set of code points, by its ranges. -/
structure PointSet where
  ranges : List Range
  deriving DecidableEq, Repr

def maxPoint : Nat := 0x10FFFF

namespace PointSet

def contains (set : PointSet) (point : Nat) : Bool := set.ranges.any (·.covers point)

/-- Ranges in ascending order, with those joined that overlap or touch. -/
def joined : List Range → List Range
  | r :: s :: rest =>
    if s.first ≤ r.last + 1 then joined (⟨r.first, max r.last s.last⟩ :: rest)
    else r :: joined (s :: rest)
  | few => few
termination_by ranges => ranges.length

/-- The set of the code points in any of some ranges. -/
def ofRanges (ranges : List Range) : PointSet :=
  ⟨joined (ranges.mergeSort fun r s => r.first ≤ s.first)⟩

/-- The code points from `first` to `last`. -/
def span (first last : Nat) : PointSet := ⟨[⟨first, last⟩]⟩

/-- The code points in the gaps between ranges in ascending order, from `start` on. -/
def gaps (start : Nat) : List Range → List Range
  | [] => if start ≤ maxPoint then [⟨start, maxPoint⟩] else []
  | r :: rest =>
    if start < r.first then ⟨start, r.first - 1⟩ :: gaps (r.last + 1) rest
    else gaps (r.last + 1) rest

/-- The code points that a set does not hold. -/
def complement (set : PointSet) : PointSet := ⟨gaps 0 set.ranges⟩

instance : EmptyCollection PointSet := ⟨⟨[]⟩⟩

instance : Union PointSet := ⟨fun s t => ofRanges (s.ranges ++ t.ranges)⟩

instance : Inter PointSet := ⟨fun s t => (s.complement ∪ t.complement).complement⟩

instance : SDiff PointSet := ⟨fun s t => (s.complement ∪ t).complement⟩

/-- The code points that any of several sets holds. -/
def unions (sets : List PointSet) : PointSet := ofRanges (sets.flatMap ranges)

end PointSet

/-! ### Tables -/

def hexDigit? (c : Char) : Option Nat :=
  if c.isDigit then some (c.toNat - '0'.toNat)
  else if 'a' ≤ c ∧ c ≤ 'f' then some (c.toNat - 'a'.toNat + 10)
  else if 'A' ≤ c ∧ c ≤ 'F' then some (c.toNat - 'A'.toNat + 10)
  else none

/-- The value of a hexadecimal numeral; other characters count as zeros. -/
def hexValue (digits : List Char) : Nat :=
  digits.foldl (fun value c => value * 16 + (hexDigit? c).getD 0) 0

/-- One entry of a table. -/
def range (entry : List Char) : Range :=
  match atFirst '-' entry with
  | some (first, last) => ⟨hexValue first, hexValue last⟩
  | none => ⟨hexValue entry, hexValue entry⟩

/-- The set that a table gives. -/
def PointSet.ofTable (table : String) : PointSet := ofRanges ((words table.toList).map range)

/-! ### Names -/

/-- The name of a property or a value without what does not count when names are compared: a leading
`is`, then case, blanks, hyphens, underscores and everything that is not ASCII. -/
def looseName (name : List Char) : String :=
  let kept (cs : List Char) : List Char :=
    (cs.filter fun c => c.toNat < 0x80 && !(c = ' ' || c = '-' || c = '_')).map Char.toLower
  match name with
  | i :: s :: rest =>
    if i.toLower = 'i' && s.toLower = 's' then
      if kept rest = ['c'] then "isc" else String.ofList (kept rest)
    else String.ofList (kept name)
  | _ => String.ofList (kept name)

end ContainerFixture.Text
