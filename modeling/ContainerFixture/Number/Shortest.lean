/-!
# Shortest decimals

The decimal text of a binary floating-point number has the fewest digits that read back as the
number, and of those the digits nearest to it. Everything is computed exactly on natural numbers:
a number is `m · 2^q`, and a decimal reads back as it when it lies in the interval of reals that
round to it, whose ends belong to it exactly when `m` is even.

The text always has a fraction or an exponent. In the positional style there is never an exponent:
`1.0`, `0.001`, `1` with three hundred zeros and a fraction. In the compact style numbers far from
one have an exponent with its sign: `1e+16`, `2.5e-9`. Infinity is `inf` and a value that is no
number is `NaN`.
-/
namespace ContainerFixture.Number

/-- A positive binary number `significand · 2^exponent`. `narrow` tells that the next smaller
number is only half as far away as the next greater one. -/
structure Binary where
  significand : Nat
  exponent : Int
  narrow : Bool

/-- A decimal `digits · 10^exponent`. -/
structure Decimal where
  digits : Nat
  exponent : Int

/-- `base` to the power `e`, or one when `e` is negative. -/
def powerUp (base : Nat) (e : Int) : Nat := Nat.pow base e.toNat

/-- `base` to the power `-e`, or one when `e` is positive. -/
def powerDown (base : Nat) (e : Int) : Nat := powerUp base (-e)

namespace Binary

/-- Quarters of the number, of the lower and of the upper end of its interval, in units of
`2^(exponent - 2)`. -/
def quarters (x : Binary) : Nat × Nat × Nat :=
  let v := 4 * x.significand
  (v, if x.narrow then v - 1 else v - 2, v + 2)

/-- Whether `c · 10^g` reads back as the number. -/
def holds (x : Binary) (g : Int) (c : Nat) : Bool :=
  let (_, low, high) := x.quarters
  let scale := powerUp 2 (x.exponent - 2) * powerDown 10 g
  let point := c * (powerDown 2 (x.exponent - 2) * powerUp 10 g)
  if x.significand % 2 = 0 then low * scale ≤ point && point ≤ high * scale
  else low * scale < point && point < high * scale

/-- The two points of the grid of multiples of `10^g` around the number: the factor of the lower
one, the number's distance above it, and the distance between the two. -/
def around (x : Binary) (g : Int) : Nat × Nat × Nat :=
  let value := x.quarters.1 * (powerUp 2 (x.exponent - 2) * powerDown 10 g)
  let unit := powerDown 2 (x.exponent - 2) * powerUp 10 g
  (value / unit, value % unit, unit)

/-- The point of the grid of multiples of `10^g` that reads back as the number, the nearer one if
both neighbours do. -/
def onGrid (x : Binary) (g : Int) : Option Decimal :=
  let (c, above, unit) := x.around g
  match x.holds g c, x.holds g (c + 1) with
  | true, true => some ⟨if 2 * above < unit then c else c + 1, g⟩
  | true, false => some ⟨c, g⟩
  | false, true => some ⟨c + 1, g⟩
  | false, false => none

/-- The exponent of the leading decimal digit. -/
def magnitude (x : Binary) : Int :=
  let (whole, _, _) := x.around 0
  if whole ≠ 0 then Int.ofNat (Nat.repr whole).length - 1
  else
    match (List.range 400).find? fun j : Nat => (x.around (-(j : Int))).1 ≠ 0 with
    | some j => -(j : Int)
    | none => 0

/-- The decimal of fewest digits that reads back as the number. Seventeen digits always do. -/
def shortest (x : Binary) : Decimal :=
  let e := x.magnitude
  ((List.range 17).findSome? fun n : Nat => x.onGrid (e - n)).getD ⟨0, 0⟩

end Binary

namespace Decimal

/-- A decimal in positional notation, with at least one digit on either side of the point. -/
def positional (d : Decimal) : String :=
  if 0 ≤ d.exponent then Nat.repr (d.digits * powerUp 10 d.exponent) ++ ".0"
  else
    let places := (-d.exponent).toNat
    let digits := (Nat.repr d.digits).toList
    let padded := List.replicate (places + 1 - digits.length) '0' ++ digits
    let whole := padded.take (padded.length - places)
    let fraction := (padded.drop (padded.length - places)).reverse.dropWhile (· = '0')
    String.ofList whole ++ "." ++ (if fraction.isEmpty then "0" else String.ofList fraction.reverse)

/-- A decimal with one digit before the point, and the exponent with its sign. Zeros at the end are
dropped, and the point with them when nothing follows it. -/
def scientific (d : Decimal) (leading : Int) : String :=
  let digits := ((Nat.repr d.digits).toList.reverse.dropWhile (· = '0')).reverse
  let mantissa := match digits with
    | first :: c :: rest => String.ofList (first :: '.' :: c :: rest)
    | few => String.ofList few
  mantissa ++ (if leading < 0 then "e-" else "e+") ++ Nat.repr leading.natAbs

def leading (d : Decimal) : Int := d.exponent + (Nat.repr d.digits).length - 1

/-- A decimal in positional notation if its leading digit stands at most sixteen places before the
point and at most five behind it, and with an exponent otherwise. -/
def compact (d : Decimal) : String :=
  if -5 ≤ d.leading ∧ d.leading ≤ 15 then d.positional else d.scientific d.leading

end Decimal

/-- When the text of a number has an exponent. -/
inductive FloatStyle where
  /-- Never. -/
  | positional
  /-- When the number is far from one. -/
  | compact
  deriving DecidableEq, Repr

def FloatStyle.write : FloatStyle → Decimal → String
  | positional => Decimal.positional
  | compact => Decimal.compact

/-- The weight of the leading bit of a normal number, which is not stored: two to the 52nd. -/
def leadingBit : Nat := 4503599627370496

def floatText (style : FloatStyle) (x : Float) : String :=
  let bits := x.toBits.toNat
  let biased := bits / leadingBit % 2048
  let fraction := bits % leadingBit
  let sign := if bits / leadingBit / 2048 = 1 then "-" else ""
  if biased = 2047 then if fraction = 0 then sign ++ "inf" else "NaN"
  else if biased = 0 then
    if fraction = 0 then sign ++ "0.0"
    else sign ++ style.write (Binary.shortest ⟨fraction, -1074, false⟩)
  else
    let narrow := fraction = 0 && biased ≠ 1
    sign ++
      style.write (Binary.shortest ⟨leadingBit + fraction, Int.ofNat biased - 1075, narrow⟩)

end ContainerFixture.Number
