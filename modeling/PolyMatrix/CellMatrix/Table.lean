import PolyMatrix.CellMatrix.Text
import PolyMatrix.Noted

/-!
# Matrices as tables

A table draws the cells of a matrix in a frame with rounded corners.  Every
column is as wide as its widest cell, with a blank on either side.
-/

namespace PolyMatrix
namespace CellMatrix

variable {K : Type} [Coefficient K]

/-- The number of characters of the widest cell in each column. -/
def columnWidths (columns : Nat) (rows : List (List String)) : List Nat :=
  (List.range columns).map fun place =>
    (rows.map fun row => (row.getD place "").length).foldr max 0

/-- A horizontal line of the frame, with its left end, crossing and right end. -/
def frameLine (left crossing right : String) (widths : List Nat) : String :=
  left ++
    crossing.intercalate (widths.map fun width =>
      String.ofList (List.replicate (width + 2) '─')) ++ right

/-- A row of the table, every cell filled up to the width of its column. -/
def tableRow (widths : List Nat) (row : List String) : String :=
  "│" ++
    "│".intercalate ((row.zip widths).map fun (cell, width) =>
      " " ++ cell ++ String.ofList (List.replicate (width - cell.length) ' ') ++ " ") ++
    "│"

/-- The drawing of a matrix; one without cells has none. -/
def table (matrix : CellMatrix K) : String :=
  if matrix.rows = 0 ∨ matrix.cols = 0 then ""
  else
    let rows := matrix.lines.map fun row => row.map cellText
    let widths := columnWidths matrix.cols rows
    let body :=
      ("\n" ++ frameLine "├" "┼" "┤" widths ++ "\n").intercalate
        (rows.map (tableRow widths))
    frameLine "╭" "┬" "╮" widths ++ "\n" ++ body ++ "\n" ++
      frameLine "╰" "┴" "╯" widths

/-- Shows the drawing under a line with shape and label. -/
def draw (matrix : CellMatrix K) : Noted Unit :=
  Noted.note (.drawing ("\n Matrix " ++ Fault.shapeText matrix.rows matrix.cols ++ " " ++
    matrix.label.getD "" ++ "\n" ++ matrix.table))

end CellMatrix
end PolyMatrix
