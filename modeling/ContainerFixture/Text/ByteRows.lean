import ContainerFixture.Text.PointSet

/-!
# The bytes of sets of characters

In UTF-8 a character is written in one to four bytes. A set of characters is described by rows of
ranges of bytes: a row stands for every choice of one byte from each of its ranges, in order.
-/
namespace ContainerFixture.Text

abbrev ByteRow := List Range

/-- The bytes that write a code point. -/
def encodedPoint (point : Nat) : List Nat :=
  if point < 0x80 then [point]
  else if point < 0x800 then [0xC0 + point / 64, 0x80 + point % 64]
  else if point < 0x10000 then
    [0xE0 + point / 4096, 0x80 + point / 64 % 64, 0x80 + point % 64]
  else
    [0xF0 + point / 262144, 0x80 + point / 4096 % 64, 0x80 + point / 64 % 64, 0x80 + point % 64]

/-- The ranges in which all characters have the same number of bytes and none is half of a surrogate
pair. -/
def encodingBlocks : List Range :=
  [⟨0, 0x7F⟩, ⟨0x80, 0x7FF⟩, ⟨0x800, 0xD7FF⟩, ⟨0xE000, 0xFFFF⟩, ⟨0x10000, maxPoint⟩]

def Range.shared (r s : Range) : Option Range :=
  let first := max r.first s.first
  let last := min r.last s.last
  if first ≤ last then some ⟨first, last⟩ else none

/-- A range in pieces whose last bytes run freely wherever an earlier byte is not fixed. Each step
is the number of code points that share all bytes but the last ones. -/
def Range.aligned : List Nat → Range → List Range
  | [], r => [r]
  | step :: steps, r =>
    if r.first / step = r.last / step then [r]
    else
      let start := (r.first + step - 1) / step * step
      let stop := (r.last + 1) / step * step
      (if r.first < start then [⟨r.first, start - 1⟩] else []) ++
        (if start < stop then aligned steps ⟨start, stop - 1⟩ else []) ++
          (if stop ≤ r.last then [⟨stop, r.last⟩] else [])

def Range.byteRows (r : Range) : List ByteRow :=
  ((encodingBlocks.filterMap r.shared).flatMap (aligned [64, 4096, 262144])).map fun piece =>
    List.zipWith Range.mk (encodedPoint piece.first) (encodedPoint piece.last)

/-- The rows of a set of characters, in the order of their bytes. -/
def PointSet.byteRows (set : PointSet) : List ByteRow := set.ranges.flatMap Range.byteRows

end ContainerFixture.Text
