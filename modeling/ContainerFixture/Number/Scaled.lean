/-!
# Scaled numerals

A quick reading of decimal numerals: the first digits are taken as an integer of sixty-four bits,
which is then multiplied or divided by a power of ten in floating-point arithmetic. What comes out
is the nearest number when the integer and the power have few digits; for long numerals and extreme
exponents it may be a neighbour of it.
-/
namespace ContainerFixture.Number

/-- The number `significand · 10^exponent`, whose significand takes at most sixty-four bits. -/
structure Scaled where
  significand : Nat := 0
  exponent : Int := 0
deriving DecidableEq, Repr

/-- The greatest power of ten that is finite has this exponent. -/
def greatestPower : Nat := 308

def tenTo (exponent : Nat) : Float := Float.ofScientific 1 false exponent

def overTenTo (x : Float) (exponent : Nat) : Float :=
  if exponent ≤ greatestPower then x / tenTo exponent
  else if x == 0 then x
  else overTenTo (x / tenTo greatestPower) (exponent - greatestPower)
termination_by exponent
decreasing_by simp only [greatestPower] at *; omega

namespace Scaled

/-- The significand with one more digit, if that fits. -/
def extended? (n : Scaled) (digit : Char) : Option Nat :=
  let significand := n.significand * 10 + (digit.toNat - '0'.toNat)
  if significand < UInt64.size then some significand else none

/-- More digits in front of the point. From the first that does not fit they only scale. -/
def addWhole (n : Scaled) : List Char → Scaled
  | [] => n
  | digit :: rest =>
    match n.extended? digit with
    | some significand => addWhole { n with significand } rest
    | none => { n with exponent := n.exponent + (rest.length + 1) }

/-- More digits after the point. From the first that does not fit they are left out. -/
def addFraction (n : Scaled) : List Char → Scaled
  | [] => n
  | digit :: rest =>
    match n.extended? digit with
    | some significand => addFraction ⟨significand, n.exponent - 1⟩ rest
    | none => n

def toFloat? (n : Scaled) : Option Float :=
  let x := Float.ofScientific n.significand false 0
  if n.exponent < 0 then some (overTenTo x n.exponent.natAbs)
  else if x == 0 then some x
  else if greatestPower < n.exponent then none
  else
    let product := x * tenTo n.exponent.natAbs
    if product.isInf then none else some product

end Scaled

end ContainerFixture.Number
