/-
Tables drawn with lines.

Every column is as wide as its widest line, with one blank on either side. A
double line parts the header from the rows and a dashed line the rows from one
another. A cell that holds several lines takes several lines of its row.
-/
import Parley.Text.Width

namespace Parley.Text

/-- The lines of a text, of which there is at least one. -/
def linesOf (s : String) : List String :=
  (split s.toList).map String.ofList
where
  split : List Char → List (List Char)
    | [] => [[]]
    | c :: cs =>
      match split cs with
      | [] => [[c]]
      | first :: rest => if c = '\n' then [] :: first :: rest else (c :: first) :: rest

/-- A row of cells, each with its lines. -/
abbrev TableRow := List (List String)

/-- A text filled up with blanks to a width. -/
def padTo (n : Nat) (s : String) : String := s ++ String.ofList (List.replicate (n - width s) ' ')

/-- The width of a column. -/
def columnWidth (rows : List TableRow) (column : Nat) : Nat :=
  (rows.flatMap fun row => (row.getD column []).map width).foldl max 0

/-- A line between rows. -/
def rule (left fill cross right : String) (widths : List Nat) : String :=
  left ++ String.intercalate cross (widths.map fun n => String.join (List.replicate (n + 2) fill))
    ++ right

/-- The lines of one row. -/
def rowLines (widths : List Nat) (row : TableRow) : List String :=
  let height := (row.map List.length).foldl max 1
  (List.range height).map fun line =>
    let cells := (row.zip widths).map fun (cell, n) => " " ++ padTo n (cell.getD line "") ++ " "
    "│" ++ String.intercalate "┆" cells ++ "│"

/-- The drawing of a table with a header. All rows have as many cells as the header. -/
def drawTable (header : List String) (body : List (List String)) : String :=
  let header := header.map linesOf
  let body := body.map (·.map linesOf)
  let widths := (List.range header.length).map (columnWidth (header :: body))
  let parted := (body.map (rowLines widths)).intersperse [rule "├" "╌" "┼" "┤" widths]
  let rows := if body.isEmpty then [] else rule "╞" "═" "╪" "╡" widths :: parted.flatten
  String.intercalate "\n"
    (rule "┌" "─" "┬" "┐" widths :: rowLines widths header ++ rows ++ [rule "└" "─" "┴" "┘" widths])

end Parley.Text
