import ContainerFixture.Text.Property

/-!
# The newest characters

The tables of properties give edition 16 of the Unicode standard, which classes of characters go by.
Edition 17 assigned further code points. Which characters are shown as they are, and which ones make
up a name, goes by that edition; none of the further code points is a blank, a control or a format
character.
-/
namespace ContainerFixture.Text

namespace PointSet

/-- The further code points that are alphabetic. -/
def newAlphabetic : PointSet := .ofTable "
    88f c5c cdc a7ce-a7cf a7d2 a7d4 a7f1 10940-10959 10ec5-10ec7 10efa-10efb 11b60-11b67
    11db0-11ddb 16ea0-16eb8 16ebb-16ed3 16ff2-16ff6 187f8-187ff 18d09-18d1e 18d80-18df2
    1e6c0-1e6de 1e6e0-1e6f5 1e6fe-1e6ff 2b73a-2b73f 2cea2-2cead 323b0-33479"

/-- The further code points that extend the one before them. -/
def newMarks : PointSet := .ofTable "
    1acf-1add 1ae0-1aeb 10efa-10efb 11b60 11b62-11b64 11b66 1e6e3 1e6e6 1e6ee-1e6ef 1e6f5"

/-- The further code points that are numbers. -/
def newNumbers : PointSet := .ofTable "11de0-11de9 16ff4-16ff6"

/-- The further code points of other kinds. -/
def newSymbols : PointSet := .ofTable "
    20c1 2b96 fbc3-fbd2 fd90-fd91 fdc8-fdce 10ed0-10ed8 1ccfa-1ccfc 1ceba-1ced0 1cee0-1cef0 1f6d8
    1f777-1f77a 1f8d0-1f8d8 1fa54-1fa57 1fa8a 1fa8e 1fac8 1facd 1faea 1faef 1fbfa"

/-- The code points that edition 17 assigned. -/
def newPoints : PointSet := newAlphabetic ∪ newMarks ∪ newNumbers ∪ newSymbols

/-- The code points that can start a name: the alphabetic ones. -/
def nameStart : PointSet := alphabetic ∪ newAlphabetic

/-- The code points that can continue a name: the alphabetic ones and the numbers. -/
def nameContinue : PointSet :=
  nameStart ∪ newNumbers ∪ categoryPoints [.decimalNumber, .letterNumber, .otherNumber]

/-- The code points that leave no mark of their own on paper, or one that joins what stands before
them. The two sound marks of half width are marks of their own. -/
def invisible : PointSet :=
  (categoryPoints
      [.control, .format, .surrogate, .privateUse, .unassigned, .lineSeparator,
        .paragraphSeparator, .spaceSeparator] \
    (newPoints ∪ .span 0x20 0x20)) ∪
  (graphemeExtend \ .span 0xFF9E 0xFF9F) ∪ newMarks ∪ defaultIgnorable

end PointSet

end ContainerFixture.Text
