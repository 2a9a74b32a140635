import Fanout.Text.Columns
import Fanout.Text.Split

/-! Tables on a terminal. A rule stands above, between and below all rows; a cell
has a space on both sides and is filled up to the width of its column, counted in
columns of the terminal. A cell of several lines makes its row as high as its
lines are many, and the lines stand at the top. -/
namespace Fanout.Console

/-- A table: the titles of its columns and the cells of its rows. -/
structure Table where
  titles : List String
  rows : List (List String)
  deriving Repr

namespace Table

/-- The lines of a cell. -/
def cellLines (cell : String) : List (List Char) :=
  Text.split '\n' cell.toList

/-- The columns that the longest line of a cell takes. -/
def cellWidth (cell : String) : Nat :=
  ((cellLines cell).map Text.columns).foldr max 0

/-- The width of every column of a table. -/
def widths (table : Table) : List Nat :=
  table.rows.foldl (fun soFar row => List.zipWith max soFar (row.map cellWidth))
    (table.titles.map cellWidth)

/-- The rule between rows. -/
def rule (widths : List Nat) : List Char :=
  '+' :: widths.flatMap fun width => List.replicate (width + 2) '-' ++ ['+']

/-- One line of a row. -/
def line (widths : List Nat) (texts : List (List Char)) : List Char :=
  '|' :: (widths.zip texts).flatMap fun (width, text) =>
    ' ' :: text ++ List.replicate (width - Text.columns text) ' ' ++ [' ', '|']

/-- The lines of a row: as many as its highest cell has. -/
def rowLines (widths : List Nat) (row : List String) : List (List Char) :=
  let cells := row.map cellLines
  let height := (cells.map List.length).foldr max 0
  (List.range height).map fun i => line widths (cells.map (·.getD i []))

/-- The table as text, without an end of line after the last rule. -/
def render (table : Table) : String :=
  let widths := table.widths
  let lines := (table.titles :: table.rows).flatMap fun row =>
    rowLines widths row ++ [rule widths]
  String.ofList (Text.join '\n' (rule widths :: lines))

end Table

end Fanout.Console
