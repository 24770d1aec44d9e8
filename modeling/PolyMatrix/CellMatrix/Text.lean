import PolyMatrix.CellMatrix.Basic
import PolyMatrix.Polynomial.Text

/-!
# Matrices as text

A matrix is written as a header with its shape and label, and a line for every
row, its cells with commas between them and a semicolon behind the last one.  A
matrix without cells is written as its header alone.
-/

namespace PolyMatrix
namespace CellMatrix

variable {K : Type} [Coefficient K]

/-- The written form of a cell. -/
def cellText (cell : Cell K) : String :=
  match cell with
  | some p => p.text
  | none => "0"

/-- The header, with the label behind the shape. -/
def headerText (matrix : CellMatrix K) : String :=
  let label :=
    match matrix.label with
    | some label => " " ++ label
    | none => ""
  " Matrix\x7b" ++ Fault.shapeText matrix.rows matrix.cols ++ label ++ "\x7d"

/-- The line of a row. -/
def rowText (row : List (Cell K)) : String :=
  "\n  " ++ ",  ".intercalate (row.map cellText) ++ ";"

/-- The written form of a matrix. -/
def text (matrix : CellMatrix K) : String :=
  matrix.headerText ++ String.join (matrix.lines.map rowText)

instance : ToString (CellMatrix K) :=
  ⟨text⟩

/-- A cell without a value is written as the value that it counts as. -/
theorem cellText_eq (cell : Cell K) : cellText cell = (cell.getD .zero).text := by
  cases cell with
  | none => rfl
  | some p => rfl

end CellMatrix
end PolyMatrix
