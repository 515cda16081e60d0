/-!
# Durations

Spans of time in whole nanoseconds, and their text in the largest unit of which they have at least
one: `2s`, `1.5ms`, `20µs`, `0ns`.
-/

namespace ContainerFixture

structure Duration where
  nanoseconds : Nat
deriving DecidableEq, Repr

namespace Duration

def ofSeconds (n : Nat) : Duration := ⟨n * 1000000000⟩

def ofMilliseconds (n : Nat) : Duration := ⟨n * 1000000⟩

def ofMicroseconds (n : Nat) : Duration := ⟨n * 1000⟩

def seconds (d : Duration) : Nat := d.nanoseconds / 1000000000

/-- The digits after the point of `n / 10 ^ places`, which do not end in a zero. -/
def fractionDigits (n places : Nat) : String :=
  let digits := Nat.toDigits 10 (n % Nat.pow 10 places)
  let padded := List.replicate (places - digits.length) '0' ++ digits
  String.ofList (padded.reverse.dropWhile (· = '0')).reverse

/-- A number of nanoseconds in a unit that is `10 ^ places` of them. -/
def inUnit (n places : Nat) (unit : String) : String :=
  let fraction := fractionDigits n places
  let point := if fraction.isEmpty then "" else "."
  s!"{n / Nat.pow 10 places}{point}{fraction}{unit}"

def text (d : Duration) : String :=
  if 1000000000 ≤ d.nanoseconds then inUnit d.nanoseconds 9 "s"
  else if 1000000 ≤ d.nanoseconds then inUnit d.nanoseconds 6 "ms"
  else if 1000 ≤ d.nanoseconds then inUnit d.nanoseconds 3 "µs"
  else inUnit d.nanoseconds 0 "ns"

end Duration

end ContainerFixture
