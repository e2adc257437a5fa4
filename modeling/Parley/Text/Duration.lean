/-
Spans of time and how they are shown.

A span is shown in the largest of the units s, ms, µs and ns of which it holds
at least one, with the decimals it needs and no zeros at their end. The empty
span is `0ns`.
-/

namespace Parley

/-- A span of time in whole nanoseconds. -/
structure Duration where
  nanos : Nat
deriving DecidableEq, Repr

namespace Duration

def ofMillis (n : Nat) : Duration := ⟨n * 1000000⟩

def millis (d : Duration) : Nat := d.nanos / 1000000

def micros (d : Duration) : Nat := d.nanos / 1000

/-- The decimals of `part / 10 ^ places`, without zeros at the end. -/
def decimals (places part : Nat) : List Char :=
  let digits := Nat.toDigits 10 part
  let padded := List.replicate (places - digits.length) '0' ++ digits
  (padded.reverse.dropWhile (· == '0')).reverse

/-- A span in a unit of `10 ^ places` nanoseconds. -/
def inUnit (d : Duration) (places : Nat) (unit : String) : String :=
  let whole := toString (d.nanos / Nat.pow 10 places)
  let part := d.nanos % Nat.pow 10 places
  if part = 0 then whole ++ unit
  else whole ++ "." ++ String.ofList (decimals places part) ++ unit

/-- A span as it is shown. -/
def render (d : Duration) : String :=
  if 1000000000 ≤ d.nanos then d.inUnit 9 "s"
  else if 1000000 ≤ d.nanos then d.inUnit 6 "ms"
  else if 1000 ≤ d.nanos then d.inUnit 3 "µs"
  else d.inUnit 0 "ns"

end Duration

end Parley
