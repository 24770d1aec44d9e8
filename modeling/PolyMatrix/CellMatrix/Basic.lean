import PolyMatrix.Fault
import PolyMatrix.Polynomial.Arithmetic
import PolyMatrix.Polynomial.Comparison

/-!
# Matrices of polynomials

A matrix holds its cells in reading order, row by row, and its type says that they
fill its shape.  A cell may be empty; an empty cell reads as zero, and only says
that there is nothing to compute.  A label names a matrix and takes no part in its
value.
-/

namespace PolyMatrix

/-- A place of a matrix: a polynomial, or nothing, which reads as zero. -/
abbrev Cell (K : Type) :=
  Option (Polynomial K)

/-- A rectangle of cells. -/
structure CellMatrix (K : Type) where
  /-- How many rows there are. -/
  rows : Nat
  /-- How many columns there are. -/
  cols : Nat
  /-- The cells in reading order. -/
  cells : List (Cell K)
  /-- A name. -/
  label : Option String := none
  /-- There are as many cells as the shape has. -/
  length_cells : cells.length = rows * cols

namespace CellMatrix

variable {K : Type}

/-- The matrix whose cells are given by position. -/
def ofFn (rows cols : Nat) (cell : Nat → Nat → Cell K) : CellMatrix K where
  rows
  cols
  cells := (List.range (rows * cols)).map fun place => cell (place / cols) (place % cols)
  length_cells := by simp

/-- The matrix without values. -/
def empty (rows cols : Nat) : CellMatrix K :=
  ofFn rows cols fun _ _ => none

/-- The cell at a position; outside of the matrix there is nothing. -/
def entry (matrix : CellMatrix K) (row col : Nat) : Cell K :=
  if col < matrix.cols then matrix.cells.getD (row * matrix.cols + col) none
  else none

/-- The value at a position, zero in an empty cell. -/
def value (matrix : CellMatrix K) (row col : Nat) : Polynomial K :=
  (matrix.entry row col).getD .zero

/-- The cells of a row. -/
def row (matrix : CellMatrix K) (place : Nat) : List (Cell K) :=
  (matrix.cells.drop (place * matrix.cols)).take matrix.cols

/-- The cells of a column. -/
def column (matrix : CellMatrix K) (place : Nat) : List (Cell K) :=
  (List.range matrix.rows).map fun row => matrix.entry row place

/-- The rows that have cells. -/
def lines (matrix : CellMatrix K) : List (List (Cell K)) :=
  if matrix.cols = 0 then [] else (List.range matrix.rows).map matrix.row

/-- The cells with their rows and columns, in reading order. -/
def positions (matrix : CellMatrix K) : List (Nat × Nat × Cell K) :=
  matrix.cells.mapIdx fun place cell => (place / matrix.cols, place % matrix.cols, cell)

/-- The matrix of cells in reading order, if there are as many as the shape has. -/
def ofCells (rows cols : Nat) (cells : List (Cell K)) : Except Fault (CellMatrix K) :=
  if count : cells.length = rows * cols then
    .ok { rows, cols, cells, length_cells := count }
  else .error (.cellCount rows cols cells.length)

/-- The matrix of polynomials in reading order. -/
def ofPolynomials (rows cols : Nat) (polynomials : List (Polynomial K)) :
    Except Fault (CellMatrix K) :=
  ofCells rows cols (polynomials.map some)

/-- The matrix of numbers in reading order. -/
def ofScalars [Add K] [Coefficient K] (rows cols : Nat) (scalars : List K) :
    Except Fault (CellMatrix K) :=
  ofPolynomials rows cols (scalars.map .constant)

/-- The square matrix with one value on its diagonal and empty cells elsewhere. -/
def diagonal (size : Nat) (value : Polynomial K) : CellMatrix K :=
  ofFn size size fun row col => if row = col then some value else none

/-- The square matrix with ones on its diagonal. -/
def identity [Add K] [Coefficient K] (size : Nat) : CellMatrix K :=
  diagonal size .one

/-- The matrix under a name. -/
def withLabel (matrix : CellMatrix K) (label : String) : CellMatrix K :=
  { matrix with label := some label }

/-- The matrix under a name or under none. -/
def withLabel? (matrix : CellMatrix K) (label : Option String) : CellMatrix K :=
  { matrix with label }

/-- Whether there are as many rows as columns. -/
def isSquare (matrix : CellMatrix K) : Bool :=
  matrix.rows == matrix.cols

/-- Whether a position lies inside of the matrix. -/
def Contains (matrix : CellMatrix K) (row col : Nat) : Prop :=
  row < matrix.rows ∧ col < matrix.cols

instance
    (matrix : CellMatrix K)
    (row col : Nat) : Decidable (matrix.Contains row col) :=
  inferInstanceAs (Decidable (_ ∧ _))

/-- The fault of a position outside of the matrix. -/
def outsideFault (matrix : CellMatrix K) (row col : Nat) : Fault :=
  .outside row col matrix.rows matrix.cols

/-- The cell at a position. -/
def cell (matrix : CellMatrix K) (row col : Nat) : Except Fault (Cell K) :=
  if matrix.Contains row col then .ok (matrix.entry row col)
  else .error (matrix.outsideFault row col)

/-- The value at a position. -/
def get (matrix : CellMatrix K) (row col : Nat) : Except Fault (Polynomial K) :=
  if matrix.Contains row col then .ok (matrix.value row col)
  else .error (matrix.outsideFault row col)

/-- The matrix with another cell at a position. -/
def set (matrix : CellMatrix K) (row col : Nat) (cell : Cell K) :
    Except Fault (CellMatrix K) :=
  if matrix.Contains row col then
    .ok { matrix with
      cells := matrix.cells.set (row * matrix.cols + col) cell
      length_cells := by simp [matrix.length_cells] }
  else .error (matrix.outsideFault row col)

/-- The matrix of what a function makes of every cell that is not empty. -/
def map (matrix : CellMatrix K) (f : Polynomial K → Polynomial K) : CellMatrix K where
  rows := matrix.rows
  cols := matrix.cols
  cells := matrix.cells.map (Option.map f)
  length_cells := by simp [matrix.length_cells]

/-- Whether two cells count as equal. -/
def cellsAgree [Coefficient K] : Cell K → Cell K → Bool
  | some p, other => p.agreesWith? other
  | none, some q => q.isZero
  | none, none => true

/-- Whether two matrices have one shape and cells that count as equal. -/
def agrees [Coefficient K] (left right : CellMatrix K) : Bool :=
  left.rows == right.rows && left.cols == right.cols &&
    (left.cells.zip right.cells).all fun pair => cellsAgree pair.1 pair.2

/-- The sums of the coefficients of every cell, in reading order. -/
def scalars [Add K] [Coefficient K] (matrix : CellMatrix K) : List K :=
  matrix.cells.map fun cell =>
    (cell.map Polynomial.coefficientSum).getD Coefficient.zero

@[simp] theorem rows_ofFn (rows cols : Nat) (cell : Nat → Nat → Cell K) :
    (ofFn rows cols cell).rows = rows :=
  rfl

@[simp] theorem cols_ofFn (rows cols : Nat) (cell : Nat → Nat → Cell K) :
    (ofFn rows cols cell).cols = cols :=
  rfl

/-- A position inside of a shape has a place among its cells. -/
theorem place_lt
    {rows cols row col : Nat}
    (rowInside : row < rows)
    (colInside : col < cols) : row * cols + col < rows * cols :=
  calc
    row * cols + col < row * cols + cols := by omega
    _ = (row + 1) * cols := by rw [Nat.add_mul, Nat.one_mul]
    _ ≤ rows * cols := Nat.mul_le_mul_right cols rowInside

/-- Inside of the shape a matrix given by position has the given cells. -/
theorem entry_ofFn
    {rows cols row col : Nat}
    (cell : Nat → Nat → Cell K)
    (rowInside : row < rows)
    (colInside : col < cols) :
    (ofFn rows cols cell).entry row col = cell row col := by
  have quotient : (row * cols + col) / cols = row := by
    rw [Nat.mul_comm, Nat.mul_add_div (by omega), Nat.div_eq_of_lt colInside,
      Nat.add_zero]
  have remainder : (row * cols + col) % cols = col := by
    rw [Nat.mul_comm, Nat.mul_add_mod, Nat.mod_eq_of_lt colInside]
  simp [entry, ofFn, List.getD, colInside, place_lt rowInside colInside, quotient,
    remainder]

/-- Outside of its shape a matrix is empty. -/
theorem entry_of_not_contains
    (matrix : CellMatrix K)
    {row col : Nat}
    (outside : ¬matrix.Contains row col) : matrix.entry row col = none := by
  unfold entry
  split
  · rename_i colInside
    have rowOutside : matrix.rows ≤ row := by
      by_cases rowInside : row < matrix.rows
      · exact absurd ⟨rowInside, colInside⟩ outside
      · omega
    have behind : matrix.cells.length ≤ row * matrix.cols + col := by
      rw [matrix.length_cells]
      exact Nat.le_add_right_of_le (Nat.mul_le_mul_right _ rowOutside)
    simp [List.getD, behind]
  · rfl

/-- A mapped matrix has the mapped cells. -/
@[simp] theorem entry_map
    (matrix : CellMatrix K)
    (f : Polynomial K → Polynomial K)
    (row col : Nat) : (matrix.map f).entry row col = (matrix.entry row col).map f := by
  simp only [entry, map, List.getD, List.getElem?_map]
  split
  · cases matrix.cells[row * matrix.cols + col]? <;> rfl
  · rfl

/-- A cell can be read exactly inside of the matrix. -/
theorem cell_eq_ok_iff (matrix : CellMatrix K) (row col : Nat) (found : Cell K) :
    matrix.cell row col = .ok found ↔
      matrix.Contains row col ∧ matrix.entry row col = found := by
  unfold cell
  split <;> simp_all

end CellMatrix
end PolyMatrix
