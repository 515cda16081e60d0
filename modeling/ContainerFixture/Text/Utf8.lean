/-!
# Reading UTF-8

Bytes are read one character at a time. A sequence that is not UTF-8 is given up at the first byte
that cannot continue it, and that byte is read afresh; `decodeLossy` writes one replacement
character for each sequence given up, `decode?` refuses the text.
-/
namespace ContainerFixture.Text

/-- What a first byte announces: its share of the code point, and the ranges of the bytes after it.
Bytes that start no character announce nothing. -/
def announced (b : Nat) : Option (Nat × List (Nat × Nat)) :=
  let tail : Nat × Nat := (0x80, 0xBF)
  if b ≤ 0x7F then some (b, [])
  else if 0xC2 ≤ b ∧ b ≤ 0xDF then some (b - 0xC0, [tail])
  else if b = 0xE0 then some (0, [(0xA0, 0xBF), tail])
  else if b = 0xED then some (0xD, [(0x80, 0x9F), tail])
  else if 0xE1 ≤ b ∧ b ≤ 0xEF then some (b - 0xE0, [tail, tail])
  else if b = 0xF0 then some (0, [(0x90, 0xBF), tail, tail])
  else if 0xF1 ≤ b ∧ b ≤ 0xF3 then some (b - 0xF0, [tail, tail, tail])
  else if b = 0xF4 then some (4, [(0x80, 0x8F), tail, tail])
  else none

/-- Reads one byte for each range, adding six bits to the code point for each; stops before the
first byte outside its range. -/
def continued (value : Nat) : List (Nat × Nat) → List UInt8 → Option Nat × List UInt8
  | [], bytes => (some value, bytes)
  | _ :: _, [] => (none, [])
  | range :: ranges, b :: bytes =>
    if range.1 ≤ b.toNat ∧ b.toNat ≤ range.2 then
      continued (value * 64 + (b.toNat - 0x80)) ranges bytes
    else (none, b :: bytes)

theorem length_continued_le (value : Nat) (ranges : List (Nat × Nat)) (bytes : List UInt8) :
    (continued value ranges bytes).2.length ≤ bytes.length := by
  induction ranges generalizing value bytes with
  | nil => simp [continued]
  | cons range ranges ih =>
    cases bytes with
    | nil => simp [continued]
    | cons b bytes =>
      simp only [continued]
      split
      · exact Nat.le_trans (ih _ _) (Nat.le_succ _)
      · simp

/-- The characters of a byte sequence, with nothing in place of each sequence given up. -/
def decodeParts : List UInt8 → List (Option Char)
  | [] => []
  | b :: bytes =>
    match announced b.toNat with
    | none => none :: decodeParts bytes
    | some (value, ranges) =>
      let read := continued value ranges bytes
      read.1.map Char.ofNat :: decodeParts read.2
termination_by bytes => bytes.length
decreasing_by
  · simp
  · exact Nat.lt_succ_of_le (length_continued_le value ranges bytes)

def replacement : Char := '\uFFFD'

/-- The text of a byte sequence, a replacement character in each place that is not UTF-8. -/
def decodeLossy (bytes : List UInt8) : String :=
  String.ofList ((decodeParts bytes).map fun part => part.getD replacement)

/-- The text of a byte sequence that is UTF-8 throughout. -/
def decode? (bytes : List UInt8) : Option String :=
  ((decodeParts bytes).mapM id).map String.ofList

end ContainerFixture.Text
