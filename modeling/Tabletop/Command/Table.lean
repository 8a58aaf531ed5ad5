/-
# Tables of text

Rows of cells in a frame of dashes and bars. A column is as wide as its widest
cell, a cell may have several lines, and a line of equals signs stands under
the heading.

Key definition: `Grid.lines`.
-/
import Tabletop.Text.Width

namespace Tabletop
namespace Grid

/-- The lines of a cell. -/
def cellLines : List Char → List (List Char)
  | [] => [[]]
  | c :: cs =>
    if c = '\n' then [] :: cellLines cs
    else
      match cellLines cs with
      | [] => [[c]]
      | l :: ls => (c :: l) :: ls

/-- The columns that a cell needs. -/
def cellWidth (cell : String) : Nat :=
  (cellLines cell.toList).foldl (fun n l => max n (Text.width l)) 0

/-- The width of each column. -/
def columnWidths (rows : List (List String)) : List Nat :=
  let counts := rows.map List.length
  rows.foldl (fun widths row => widths.zipWith max (row.map cellWidth))
    (List.replicate (counts.foldl max 0) 0)

/-- A rule with some characters at its left end, along it, between columns and
at its right end. -/
def rule (left along between right : Char) (widths : List Nat) : String :=
  let parts := widths.map fun w => List.replicate (w + 2) along
  String.ofList (left :: [between].intercalate parts ++ [right])

/-- A line of a cell between blanks, filled up to a width. -/
def padded (width : Nat) (line : List Char) : List Char :=
  ' ' :: line ++ List.replicate (width - Text.width line + 1) ' '

/-- The lines of a row. -/
def rowLines (widths : List Nat) (row : List String) : List String :=
  let cells := row.map fun cell => cellLines cell.toList
  let height := (cells.map List.length).foldl max 0
  (List.range height).map fun n =>
    let parts := cells.zipWith (fun lines width => padded width (lines.getD n [])) widths
    String.ofList ('|' :: ['|'].intercalate parts ++ ['|'])

/-- The lines of a table with a heading. -/
def lines (heading : List String) (rows : List (List String)) : List String :=
  let widths := columnWidths (heading :: rows)
  let edge := rule '+' '-' '+' '+' widths
  let body := (rows.map (rowLines widths)).intersperse [rule '|' '-' '+' '|' widths]
  [edge] ++ rowLines widths heading ++ [rule '+' '=' '=' '+' widths] ++ body.flatten ++ [edge]

end Grid
end Tabletop
