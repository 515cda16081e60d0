import ContainerFixture.Text.Newest

/-!
# Quoted texts

A text between double quotes in which every character is visible: control and format characters,
blanks other than the space, unassigned code points, characters that are ignored by default and
marks that would join the character before them are written as escapes.
-/
namespace ContainerFixture.Text

/-- The lower-case hexadecimal numeral of a number, without leading zeros. -/
def hex (n : Nat) : String := String.ofList (Nat.toDigits 16 n)

/-- A character as it stands between the quotes. -/
def quotedChar (c : Char) : String :=
  match c with
  | '\x00' => "\\0"
  | '\t' => "\\t"
  | '\r' => "\\r"
  | '\n' => "\\n"
  | '"' => "\\\""
  | '\\' => "\\\\"
  | _ =>
    if c.toNat < 0x7F && 0x20 ≤ c.toNat then c.toString
    else if PointSet.invisible.contains c.toNat then "\\u\x7b" ++ hex c.toNat ++ "\x7d"
    else c.toString

def quoted (s : String) : String := "\"" ++ String.join (s.toList.map quotedChar) ++ "\""

end ContainerFixture.Text
