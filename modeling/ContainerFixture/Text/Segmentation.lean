import ContainerFixture.Text.Property
import ContainerFixture.Text.Script

/-!
# Where texts divide

The Unicode properties `Grapheme_Cluster_Break`, `Word_Break` and `Sentence_Break`, after edition 16
of the standard: what a code point does to a boundary between characters as they are seen, between
words and between sentences. Their values are derived from other properties.
-/
namespace ContainerFixture.Text

namespace PointSet

def carriageReturn : PointSet := .span 0x0D 0x0D

def lineFeed : PointSet := .span 0x0A 0x0A

def zeroWidthJoiner : PointSet := .span 0x200D 0x200D

/-- The marks that extend what stands before them, and those that take room beside it. -/
def extendingMarks : PointSet := graphemeExtend ∪ Category.spacingMark.points

/-- The marks before numbers, but not the one that abbreviates words. -/
def numberMarks : PointSet := prependedConcatenationMarks \ .span 0x70F 0x70F

/-! ### Characters as they are seen -/

/-- What is seen as one character with what follows it. -/
def prepended : PointSet :=
  prependedConcatenationMarks ∪
    .ofTable "d4e 111c2-111c3 113d1 1193f 11941 11a3a 11a84-11a89 11d46 11f02"

/-- What never joins another character. -/
def breakingControls : PointSet :=
  (categoryPoints [.control, .format, .lineSeparator, .paragraphSeparator] ∪
      (Category.unassigned.points ∩ defaultIgnorable)) \
    (prepended ∪ graphemeExtend ∪ zeroWidthJoiner ∪ carriageReturn ∪ lineFeed)

/-- The marks that take room beside the character that they belong to. -/
def spacingMarks : PointSet :=
  (Category.spacingMark.points ∪ .ofTable "e33 eb3") \
    (graphemeExtend ∪ .ofTable "102b-102c 1038 1062-1064 1067-106d 1083 1087-108c 108f 109a-109c
      1a61 1a63-1a64 aa7b aa7d 11720-11721")

def hangulSyllables : Range := ⟨0xAC00, 0xD7A3⟩

/-- The syllables of Hangul that have no final consonant: every twenty-eighth. -/
def openSyllables : PointSet :=
  let count := (hangulSyllables.last - hangulSyllables.first) / 28 + 1
  .ofRanges ((List.range count).map fun i =>
    ⟨hangulSyllables.first + 28 * i, hangulSyllables.first + 28 * i⟩)

/-! ### Words -/

def katakana : PointSet :=
  ((scriptNamed "kana").map (·.2)).getD ∅ ∪ .ofTable "3031-3035 309b-309c 30a0 30fc ff70"

def hebrewLetters : PointSet :=
  ((scriptNamed "hebr").map (·.2)).getD ∅ ∩ Category.otherLetter.points

/-- The letters of the scripts that put no blanks between words. -/
def unspacedLetters : PointSet :=
  .unions ((["ahom", "khmr", "lana", "laoo", "mymr", "tale", "talu", "tavt", "thai"].filterMap
      scriptNamed).map (·.2)) ∩
    categoryPoints [.otherLetter, .modifierLetter, .nonspacingMark, .spacingMark]

/-- What extends a word: marks and the modifiers of emoji. -/
def wordExtend : PointSet := extendingMarks ∪ emojiModifiers

/-- The letters of words, and some signs that count as such. -/
def wordLetters : PointSet :=
  (alphabetic ∪ .ofTable "b8 2c2-2c5 2d2-2d7 2de-2df 2e5-2eb 2ed 2ef-2ff 55a-55c 55e 58a 5f3 70f
      a708-a716 a720-a721 a789-a78a ab5b") \
    (ideographs ∪ katakana ∪ unspacedLetters ∪ ((scriptNamed "hira").map (·.2)).getD ∅ ∪
      wordExtend ∪ hebrewLetters)

def wordNumbers : PointSet :=
  Category.decimalNumber.points ∪ numberMarks ∪ .ofTable "66b 19da"

def wordFormats : PointSet :=
  Category.format.points \
    (.span 0x200B 0x200D ∪ graphemeExtend ∪ prependedConcatenationMarks)

/-! ### Sentences -/

/-- What extends a sentence without a part of its own in it. -/
def sentenceExtend : PointSet := extendingMarks ∪ zeroWidthJoiner

def sentenceLowercase : PointSet :=
  lowercase \ (sentenceExtend ∪ .ofTable "10d0-10fa 10fd-10ff")

def sentenceUppercase : PointSet :=
  (uppercase ∪ Category.titlecaseLetter.points) \ .span 0x1C90 0x1CBF

def sentenceLetters : PointSet :=
  (alphabetic ∪ .span 0x5F3 0x5F3) \ (sentenceLowercase ∪ sentenceUppercase ∪ sentenceExtend)

/-- The full stops, which may stand after an abbreviation as well. -/
def fullStops : PointSet := .ofTable "2e 2024 fe52 ff0e"

end PointSet

open PointSet

/-- The code points with a value of `Grapheme_Cluster_Break`, by the names of the value in the form
of `looseName`. -/
def graphemeBreakNamed (name : String) : Option PointSet :=
  match name with
  | "cn" | "control" => some breakingControls
  | "cr" => some carriageReturn
  | "ex" | "extend" => some (graphemeExtend ∪ emojiModifiers)
  | "l" => some (.ofTable "1100-115f a960-a97c")
  | "lf" => some lineFeed
  | "lv" => some openSyllables
  | "lvt" => some (.span hangulSyllables.first hangulSyllables.last \ openSyllables)
  | "pp" | "prepend" => some prepended
  | "ri" | "regionalindicator" => some regionalIndicators
  | "sm" | "spacingmark" => some spacingMarks
  | "t" => some (.ofTable "11a8-11ff d7cb-d7fb")
  | "v" => some (.ofTable "1160-11a7 d7b0-d7c6 16d63 16d67-16d6a")
  | "zwj" => some zeroWidthJoiner
  | _ => none

/-- The code points with a value of `Word_Break`, by the names of the value in the form of
`looseName`. -/
def wordBreakNamed (name : String) : Option PointSet :=
  match name with
  | "cr" => some carriageReturn
  | "dq" | "doublequote" => some (.ofTable "22")
  | "ex" | "extendnumlet" =>
    some (Category.connectorPunctuation.points ∪ .ofTable "202f")
  | "extend" => some wordExtend
  | "fo" | "format" => some wordFormats
  | "hl" | "hebrewletter" => some hebrewLetters
  | "ka" | "katakana" => some katakana
  | "le" | "aletter" => some wordLetters
  | "lf" => some lineFeed
  | "mb" | "midnumlet" => some (.ofTable "2e 2018-2019 2024 fe52 ff07 ff0e")
  | "ml" | "midletter" => some (.ofTable "3a b7 387 55f 5f4 2027 fe13 fe55 ff1a")
  | "mn" | "midnum" =>
    some (.ofTable "2c 3b 37e 589 60c-60d 66c 7f8 2044 fe10 fe14 fe50 fe54 ff0c ff1b")
  | "nl" | "newline" => some (.ofTable "b-c 85 2028-2029")
  | "nu" | "numeric" => some wordNumbers
  | "ri" | "regionalindicator" => some regionalIndicators
  | "sq" | "singlequote" => some (.ofTable "27")
  | "wsegspace" => some (Category.spaceSeparator.points \ .ofTable "a0 2007 202f")
  | "zwj" => some zeroWidthJoiner
  | _ => none

/-- The code points with a value of `Sentence_Break`, by the names of the value in the form of
`looseName`. -/
def sentenceBreakNamed (name : String) : Option PointSet :=
  match name with
  | "at" | "aterm" => some fullStops
  | "cl" | "close" =>
    some (categoryPoints
        [.openPunctuation, .closePunctuation, .initialPunctuation, .finalPunctuation] ∪
      .ofTable "22 27 275b-2760 2e00-2e01 2e06-2e08 2e0b 1f676-1f678")
  | "cr" => some carriageReturn
  | "ex" | "extend" => some sentenceExtend
  | "fo" | "format" =>
    some (Category.format.points \ (.span 0x200C 0x200D ∪ graphemeExtend ∪ numberMarks))
  | "le" | "oletter" => some sentenceLetters
  | "lf" => some lineFeed
  | "lo" | "lower" => some sentenceLowercase
  | "nu" | "numeric" => some (wordNumbers ∪ .ofTable "66c")
  | "sc" | "scontinue" =>
    some (.ofTable "2c-2d 3a-3b 37e 55d 60c-60d 7f8 1802 1808 2013-2014 3001 fe10-fe11 fe13-fe14
      fe31-fe32 fe50-fe51 fe54-fe55 fe58 fe63 ff0c-ff0d ff1a-ff1b ff64")
  | "se" | "sep" => some (.ofTable "85 2028-2029")
  | "sp" => some (blanks \ .ofTable "a d 85 2028-2029")
  | "st" | "sterm" => some (sentenceTerminals \ fullStops)
  | "up" | "upper" => some sentenceUppercase
  | _ => none

end ContainerFixture.Text
