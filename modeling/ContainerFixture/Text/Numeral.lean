/-!
# Numerals

Unsigned numerals of limited size: an optional plus sign and at least one decimal digit, at most a
given limit. Printing needs nothing of its own: `Nat.repr` writes the digits, and they are read
back.
-/
namespace ContainerFixture.Text

def digitValue (c : Char) : Nat := c.toNat - '0'.toNat

/-- The value of decimal digits read from the left, continuing from `acc`. -/
def digitsValue (acc : Nat) (digits : List Char) : Nat :=
  digits.foldl (fun value c => value * 10 + digitValue c) acc

/-- The digits of a numeral, without its plus sign. -/
def unsigned : List Char → List Char
  | '+' :: digits => digits
  | digits => digits

/-- A numeral that is at most `limit`: an optional plus sign, then one or more decimal digits. -/
def numeral? (limit : Nat) (cs : List Char) : Option Nat :=
  let digits := unsigned cs
  if digits.isEmpty || !digits.all Char.isDigit then none
  else
    let value := digitsValue 0 digits
    if value ≤ limit then some value else none

/-- The greatest value of an unsigned 16-bit word. -/
def maxWord16 : Nat := UInt16.size - 1

/-- A port number in the notation of `numeral?`. -/
def word16? (cs : List Char) : Option UInt16 := (numeral? maxWord16 cs).map UInt16.ofNat

theorem digitsValue_eq_ofDigitChars (acc : Nat) (digits : List Char) :
    digitsValue acc digits = Nat.ofDigitChars 10 digits acc := by
  simp only [digitsValue, digitValue, Nat.ofDigitChars, Nat.mul_comm]

theorem isDigit_of_mem_repr {n : Nat} {c : Char} (mem : c ∈ n.repr.toList) : c.isDigit = true := by
  rw [Nat.toList_repr] at mem
  exact Nat.isDigit_of_mem_toDigits (by decide) (by decide) mem

theorem repr_ne_nil (n : Nat) : n.repr.toList ≠ [] := by
  rw [Nat.toList_repr]
  exact Nat.toDigits_ne_nil

theorem repr_inj {n m : Nat} : n.repr = m.repr ↔ n = m := by
  refine ⟨fun same => ?_, congrArg Nat.repr⟩
  have digits : Nat.toDigits 10 n = Nat.toDigits 10 m := by
    rw [← Nat.toList_repr, ← Nat.toList_repr, same]
  rw [← Nat.ofDigitChars_ten_toDigits (n := n), digits, Nat.ofDigitChars_ten_toDigits]

theorem unsigned_of_isDigit {digits : List Char} (all : ∀ c ∈ digits, c.isDigit = true) :
    unsigned digits = digits := by
  unfold unsigned
  split
  · next rest => cases all '+' List.mem_cons_self
  · rfl

theorem numeral?_eq_some_iff {limit value : Nat} {cs : List Char} :
    numeral? limit cs = some value ↔ unsigned cs ≠ [] ∧ (∀ c ∈ unsigned cs, c.isDigit = true) ∧
      digitsValue 0 (unsigned cs) = value ∧ value ≤ limit := by
  rw [numeral?, ← List.all_eq_true]
  by_cases empty : unsigned cs = []
  · simp [empty]
  · cases (unsigned cs).all Char.isDigit
    · simp
    · simp only [List.isEmpty_iff, empty, Bool.not_true, Bool.or_false, if_false,
        Option.ite_none_right_eq_some, Option.some.injEq, ne_eq, not_false_eq_true, true_and]
      exact ⟨fun ⟨small, same⟩ => ⟨same, same ▸ small⟩, fun ⟨same, small⟩ => ⟨same ▸ small, same⟩⟩

/-- A number is read back from its digits. -/
theorem numeral?_repr {limit n : Nat} (small : n ≤ limit) :
    numeral? limit n.repr.toList = some n := by
  have digits : ∀ c ∈ n.repr.toList, c.isDigit = true := fun c => isDigit_of_mem_repr
  rw [numeral?_eq_some_iff, unsigned_of_isDigit digits]
  refine ⟨repr_ne_nil n, digits, ?_, small⟩
  rw [digitsValue_eq_ofDigitChars, Nat.toList_repr, Nat.ofDigitChars_ten_toDigits]

theorem word16?_repr (n : UInt16) : word16? n.toNat.repr.toList = some n := by
  have small : n.toNat ≤ maxWord16 := Nat.le_pred_of_lt n.toNat_lt
  rw [word16?, numeral?_repr small, Option.map_some, UInt16.ofNat_toNat]

end ContainerFixture.Text
