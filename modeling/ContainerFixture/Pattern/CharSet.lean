import ContainerFixture.Pattern
import ContainerFixture.Text.Age
import ContainerFixture.Text.Segmentation

/-!
# Classes of characters

The classes that a pattern can name: digits, blanks and word characters, the classes of ASCII, and
properties of Unicode. A class holds no halves of surrogate pairs, which are no characters.
-/

namespace ContainerFixture.CharSet

open Text

/-- The code points of a set that are characters. -/
def ofPoints (set : PointSet) : CharSet := set \ Category.surrogate.points

/-- The characters from `first` to `last`. -/
def span (first last : Char) : CharSet := ofPoints (.span first.toNat last.toNat)

/-- The characters not in a set. -/
def negate (set : CharSet) : CharSet := ofPoints set.complement

def all : CharSet := negate ∅

/-- A set, or what is not in it. -/
def negateIf (negated : Bool) (set : CharSet) : CharSet := if negated then negate set else set

/-- A set with the other case of its letters of ASCII. -/
def foldAsciiCase (set : CharSet) : CharSet :=
  let upper : Range := ⟨'A'.toNat, 'Z'.toNat⟩
  let lower : Range := ⟨'a'.toNat, 'z'.toNat⟩
  .ofRanges (set.ranges ++ set.ranges.filterMap (Folding.carry upper lower.first) ++
    set.ranges.filterMap (Folding.carry lower upper.first))

/-- A set with the other case of its characters, of ASCII letters alone or of all. -/
def foldCase (ascii : Bool) (set : CharSet) : CharSet :=
  if ascii then foldAsciiCase set else set.caseVariants

/-- The classes that a backslash and a letter stand for: digits, blanks, word characters. -/
def ofLetter (ascii : Bool) : Char → Option CharSet
  | 'd' => some (if ascii then .ofTable "30-39" else Category.decimalNumber.points)
  | 's' => some (if ascii then .ofTable "9-d 20" else PointSet.blanks)
  | 'w' => some (if ascii then .ofTable "30-39 41-5a 5f 61-7a" else PointSet.wordPoints)
  | _ => none

def ofAsciiName : String → Option CharSet
  | "alnum" => some (.ofTable "30-39 41-5a 61-7a")
  | "alpha" => some (.ofTable "41-5a 61-7a")
  | "ascii" => some (.ofTable "0-7f")
  | "blank" => some (.ofTable "9 20")
  | "cntrl" => some (.ofTable "0-1f 7f")
  | "digit" => some (.ofTable "30-39")
  | "graph" => some (.ofTable "21-7e")
  | "lower" => some (.ofTable "61-7a")
  | "print" => some (.ofTable "20-7e")
  | "punct" => some (.ofTable "21-2f 3a-40 5b-60 7b-7e")
  | "space" => some (.ofTable "9-d 20")
  | "upper" => some (.ofTable "41-5a")
  | "word" => some (.ofTable "30-39 41-5a 5f 61-7a")
  | "xdigit" => some (.ofTable "30-39 41-46 61-66")
  | _ => none

/-- The general category with a name, or a set that is named like one. Surrogates are no characters,
and have no class. -/
def ofCategoryName (name : String) : Option CharSet :=
  if name = "any" then some all
  else if name = "ascii" then some (.ofTable "0-7f")
  else if name = "assigned" then some (negate Category.unassigned.points)
  else
    match categoriesNamed name with
    | some [.surrogate] | none => none
    | some categories => some (ofPoints (categoryPoints categories))

def ofScriptName (name : String) : Option CharSet := (scriptNamed name).map (·.2)

/-- The binary property, general category or script with a name. Three names are those of a category
although they also abbreviate a property. -/
def ofPropertyName (name : String) : Option CharSet :=
  let property := if name ∈ ["cf", "sc", "lc"] then none else propertyNamed name
  ((property.map ofPoints).or (ofCategoryName name)).or (ofScriptName name)

/-- The value of a property that has values. -/
def ofPropertyValue (property value : String) : Option CharSet :=
  match property with
  | "gc" | "generalcategory" => ofCategoryName value
  | "sc" | "script" => ofScriptName value
  | "scx" | "scriptextensions" => scriptExtensionNamed value
  | "age" => (ageNamed value).map ofPoints
  | "gcb" | "graphemeclusterbreak" => (graphemeBreakNamed value).map ofPoints
  | "wb" | "wordbreak" => (wordBreakNamed value).map ofPoints
  | "sb" | "sentencebreak" => (sentenceBreakNamed value).map ofPoints
  | _ => none

/-- The class described between braces after `\p`: a name, or a property and its value with `:`, `=`
or `!=` between them. The flag tells that the class is what is not described. -/
def ofDescription (description : List Char) : Option (Bool × CharSet) :=
  let value (property value : List Char) : Option CharSet :=
    ofPropertyValue (looseName property) (looseName value)
  match atNotEqual description with
  | some (property, name) => (value property name).map (true, ·)
  | none =>
    match (atFirst ':' description).or (atFirst '=' description) with
    | some (property, name) => (value property name).map (false, ·)
    | none => (ofPropertyName (looseName description)).map (false, ·)
where
  /-- The text before and after the first `!=`. -/
  atNotEqual : List Char → Option (List Char × List Char)
    | [] => none
    | '!' :: '=' :: rest => some ([], rest)
    | c :: rest => (atNotEqual rest).map fun parts => (c :: parts.1, parts.2)

end ContainerFixture.CharSet
