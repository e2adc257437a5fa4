/-
Blank characters: those with the property White_Space of the Unicode standard.

Trimming removes them from both ends of a text and nowhere else.
-/
import Parley.Text.Ranges

namespace Parley.Text

/-- The characters with the property White_Space. -/
def blanks : Ranges :=
  [(0x9, 0xD), (0x20, 0x20), (0x85, 0x85), (0xA0, 0xA0), (0x1680, 0x1680), (0x2000, 0x200A),
    (0x2028, 0x2029), (0x202F, 0x202F), (0x205F, 0x205F), (0x3000, 0x3000)]

def isBlank (c : Char) : Bool := blanks.contains c

/-- A text without the blanks at its ends, as characters. -/
def trimmed (cs : List Char) : List Char :=
  (((cs.dropWhile isBlank).reverse).dropWhile isBlank).reverse

/-- A text without the blanks at its ends. -/
def trim (s : String) : String := String.ofList (trimmed s.toList)

end Parley.Text
