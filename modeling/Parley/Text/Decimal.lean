/-
Unsigned decimal numbers.

A number is one or more ASCII digits, which may be zeros in front, after at
most one plus sign, and it must not exceed the largest number of its width.
-/

namespace Parley.Text

/-- The value of a decimal digit. -/
def digit? (c : Char) : Option Nat :=
  if '0' ≤ c ∧ c ≤ '9' then some (c.toNat - '0'.toNat) else none

/-- The number that follows `n` when more digits are read. -/
def digitsAfter? (n : Nat) : List Char → Option Nat
  | [] => some n
  | c :: rest =>
    match digit? c with
    | some d => digitsAfter? (10 * n + d) rest
    | none => none

/-- The number that one or more digits denote. -/
def digits? : List Char → Option Nat
  | [] => none
  | cs => digitsAfter? 0 cs

/-- The number that a text denotes, if it is at most `max`. -/
def number? (max : Nat) (cs : List Char) : Option Nat :=
  let digits := match cs with
    | '+' :: rest => rest
    | cs => cs
  (digits? digits).filter (· ≤ max)

/-- The largest unsigned 16-bit number. -/
def maxU16 : Nat := 0xffff

/-- The largest unsigned 64-bit number. -/
def maxU64 : Nat := 0xffffffffffffffff

end Parley.Text
