import ContainerFixture.Toml.Lexeme

/-!
# Numbers, dates and truth values of TOML

A scalar that starts with a sign or a digit is read as a date, as a number with a fraction or an
exponent, or as an integer, whichever fits first. Integers are of 64 bits with a sign. Dates keep
their parts and are written in one normal form.
-/
namespace ContainerFixture.Toml

open Text Document

/-! ### Digits -/

/-- Digits of a kind with single underscores between them. An underscore that no digit follows, or
no digit at all, is refused. -/
def digits? (isDigit : Char → Bool) : List Char → Option (List Char × List Char)
  | c :: '_' :: rest =>
    if isDigit c then (digits? isDigit rest).map fun more => (c :: more.1, more.2) else none
  | c :: rest =>
    if isDigit c then
      match digits? isDigit rest, rest with
      | some (more, after), _ => some (c :: more, after)
      | none, d :: _ => if isDigit d then none else some ([c], rest)
      | none, [] => some ([c], rest)
    else none
  | [] => none

/-- The value of digits in a base. -/
def valueIn (base : Nat) (digits : List Char) : Nat :=
  digits.foldl (fun value c => value * base + (hexDigit? c).getD 0) 0

/-- A sign, if there is one: whether it is negative, and the rest. -/
def sign : List Char → Bool × List Char
  | '-' :: rest => (true, rest)
  | '+' :: rest => (false, rest)
  | cs => (false, cs)

/-- Decimal digits, of which the first is zero only if it is the only one. -/
def wholeDigits? : List Char → Option (List Char × List Char)
  | '0' :: rest => some (['0'], rest)
  | cs => digits? Char.isDigit cs

/-! ### Integers -/

/-- A number that fits 64 bits with a sign. -/
def word? (negative : Bool) (magnitude : Nat) : Option Int :=
  if negative then if magnitude ≤ UInt64.size / 2 then some (-(magnitude : Int)) else none
  else if magnitude < UInt64.size / 2 then some magnitude else none

/-- An integer in hexadecimal, octal, binary or decimal notation. Only the last takes a sign. -/
def integer? : List Char → Option (Value × List Char)
  | '0' :: 'x' :: rest => do
    let (digits, rest) ← digits? (fun c => (hexDigit? c).isSome) rest
    return (.integer (← word? false (valueIn 16 digits)), rest)
  | '0' :: 'o' :: rest => do
    let (digits, rest) ← digits? (fun c => '0' ≤ c && c ≤ '7') rest
    return (.integer (← word? false (valueIn 8 digits)), rest)
  | '0' :: 'b' :: rest => do
    let (digits, rest) ← digits? (fun c => c = '0' || c = '1') rest
    return (.integer (← word? false (valueIn 2 digits)), rest)
  | cs => do
    let (negative, rest) := sign cs
    let (digits, rest) ← wholeDigits? rest
    return (.integer (← word? negative (valueIn 10 digits)), rest)

/-! ### Numbers with a fraction or an exponent -/

def infinity : Float := 1.0 / 0.0

/-- The number `digits · 10^exponent`, rounded to a floating-point number. -/
def scientific (digits : Nat) (exponent : Int) : Float :=
  if digits = 0 then 0
  else
    let magnitude := (Nat.repr digits).length + exponent
    if 400 < magnitude then infinity
    else if magnitude < -400 then 0
    else if exponent < 0 then Float.ofScientific digits true (-exponent).toNat
    else Float.ofScientific digits false exponent.toNat

def exponent? : List Char → Option (Int × List Char)
  | c :: rest =>
    if c = 'e' || c = 'E' then do
      let (negative, rest) := sign rest
      let (digits, rest) ← digits? Char.isDigit rest
      let n := valueIn 10 digits
      return (if negative then -(n : Int) else n, rest)
    else none
  | [] => none

/-- A number with a fraction, an exponent or both. One too great to be finite is refused unless it
is negative. -/
def real? (cs : List Char) : Option (Value × List Char) := do
  let (negative, rest) := sign cs
  let (whole, rest) ← wholeDigits? rest
  let (fraction, exponent, rest) ← match rest with
    | '.' :: after => do
      let (fraction, after) ← digits? Char.isDigit after
      match after with
      | c :: _ =>
        if c = 'e' || c = 'E' then
          let (exponent, after) ← exponent? after
          pure (fraction, exponent, after)
        else pure (fraction, (0 : Int), after)
      | [] => pure (fraction, (0 : Int), after)
    | _ => do
      let (exponent, after) ← exponent? rest
      pure ([], exponent, after)
  let x := scientific (valueIn 10 (whole ++ fraction)) (exponent - fraction.length)
  if !negative && x == infinity then none
  else return (.real (if negative then -x else x), rest)

/-- Infinity, or a value that is no number. -/
def special? (cs : List Char) : Option (Value × List Char) :=
  let (negative, rest) := sign cs
  match rest with
  | 'i' :: 'n' :: 'f' :: after => some (.real (if negative then -infinity else infinity), after)
  | 'n' :: 'a' :: 'n' :: after => some (.real (0.0 / 0.0), after)
  | _ => none

/-! ### Dates and times -/

/-- A number of exactly `count` digits within bounds. -/
def fixed? (count low high : Nat) (cs : List Char) : Option (Nat × List Char) :=
  let digits := cs.take count
  if digits.length = count ∧ digits.all Char.isDigit then
    let n := valueIn 10 digits
    if low ≤ n ∧ n ≤ high then some (n, cs.drop count) else none
  else none

def after? (c : Char) : List Char → Option (List Char)
  | d :: rest => if c = d then some rest else none
  | [] => none

/-- A number with leading zeros up to a width. -/
def padded (width n : Nat) : String :=
  let digits := (Nat.repr n).toList
  String.ofList (List.replicate (width - digits.length) '0' ++ digits)

/-- The number of days of a month. -/
def daysOf (year month : Nat) : Nat :=
  let leap := year % 4 = 0 ∧ (year % 100 ≠ 0 ∨ year % 400 = 0)
  if month = 2 then if leap then 29 else 28
  else if month ∈ [4, 6, 9, 11] then 30
  else 31

/-- A day, in its normal form. -/
def date? (cs : List Char) : Option (String × List Char) := do
  let (year, rest) ← fixed? 4 0 9999 cs
  let rest ← after? '-' rest
  let (month, rest) ← fixed? 2 1 12 rest
  let rest ← after? '-' rest
  let (day, rest) ← fixed? 2 1 31 rest
  if daysOf year month < day then none
  else return (padded 4 year ++ "-" ++ padded 2 month ++ "-" ++ padded 2 day, rest)

/-- The fraction of a second, in its normal form: nine digits at most, without zeros at the end. -/
def secondFraction? : List Char → Option (String × List Char)
  | '.' :: rest =>
    let (digits, rest) := rest.span Char.isDigit
    if digits.isEmpty then none
    else
      let kept := ((digits.take 9).reverse.dropWhile (· = '0')).reverse
      some (if kept.isEmpty then "" else "." ++ String.ofList kept, rest)
  | rest => some ("", rest)

/-- A time of day, in its normal form. -/
def time? (cs : List Char) : Option (String × List Char) := do
  let (hour, rest) ← fixed? 2 0 23 cs
  let rest ← after? ':' rest
  let (minute, rest) ← fixed? 2 0 59 rest
  let rest ← after? ':' rest
  let (second, rest) ← fixed? 2 0 60 rest
  let (fraction, rest) ← secondFraction? rest
  return (padded 2 hour ++ ":" ++ padded 2 minute ++ ":" ++ padded 2 second ++ fraction, rest)

/-- An offset from universal time, in its normal form, if there is one. -/
def offset? : List Char → Option (String × List Char)
  | c :: rest =>
    if c = 'Z' || c = 'z' then some ("Z", rest)
    else if c = '+' || c = '-' then do
      let (hour, rest) ← fixed? 2 0 23 rest
      let rest ← after? ':' rest
      let (minute, rest) ← fixed? 2 0 59 rest
      let written := if c = '-' && (hour ≠ 0 || minute ≠ 0) then "-" else "+"
      return (written ++ padded 2 hour ++ ":" ++ padded 2 minute, rest)
    else some ("", c :: rest)
  | [] => some ("", [])

/-- A date, a time, or both. Between the two stands a `T` or a space. -/
def moment? (cs : List Char) : Option (Value × List Char) :=
  match date? cs with
  | some (date, rest) =>
    match rest with
    | c :: after =>
      if c = 'T' || c = 't' || c = ' ' then
        match time? after with
        | some (time, rest) =>
          (offset? rest).map fun read => (.moment (date ++ "T" ++ time ++ read.1), read.2)
        | none => some (.moment date, rest)
      else some (.moment date, rest)
    | [] => some (.moment date, [])
  | none => (time? cs).map fun read => (.moment read.1, read.2)

/-! ### Scalars -/

/-- A scalar that is no string. -/
def scalar? (cs : List Char) : Option (Value × List Char) :=
  match cs with
  | 't' :: 'r' :: 'u' :: 'e' :: rest => some (.flag true, rest)
  | 'f' :: 'a' :: 'l' :: 's' :: 'e' :: rest => some (.flag false, rest)
  | _ => moment? cs <|> real? cs <|> special? cs <|> integer? cs

end ContainerFixture.Toml
