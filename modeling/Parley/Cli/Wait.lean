/-
Spans of time as they are given on the command line.

A span is a number and a unit: `ms`, `s` or `m`, or seconds without a unit. It
is counted in milliseconds, of which it must have at least ten and no more
than 64 bits can count.
-/
import Parley.Cli.Exit
import Parley.Text.Blank
import Parley.Text.Decimal

namespace Parley.Cli

/-- The shortest span that can be given. -/
def minWait : Duration := .ofMillis 10

/-- The units and how many milliseconds they have. The first one at the end of
a text is its unit, so milliseconds come before seconds. -/
def units : List (List Char × Nat) := [(['m', 's'], 1), (['s'], 1000), (['m'], 60000)]

/-- What stands in front of an ending, if a text has that ending. -/
def before? (ending cs : List Char) : Option (List Char) :=
  if ending.isSuffixOf cs then some (cs.take (cs.length - ending.length)) else none

/-- The number of a span and the milliseconds of its unit. -/
def splitUnit (cs : List Char) : List Char × Nat :=
  (units.findSome? fun (ending, millis) => (before? ending cs).map (·, millis)).getD (cs, 1000)

/-- The milliseconds that a text without blanks at its ends denotes. -/
def millis? (cs : List Char) : Option Nat :=
  let (number, unit) := splitUnit cs
  ((Text.number? Text.maxU64 number).map (· * unit)).filter (· ≤ Text.maxU64)

/-- Reads a span of time. -/
def parseWait (input : String) : Except CliError Duration :=
  let text := Text.trim input
  match millis? text.toList with
  | none => .error ⟨.usage, "invalid duration: " ++ Text.quoted text⟩
  | some n =>
    if n < minWait.millis then
      .error ⟨.usage,
        "duration " ++ Text.quoted text ++ " is below the " ++ minWait.render ++ " minimum"⟩
    else .ok (.ofMillis n)

end Parley.Cli
