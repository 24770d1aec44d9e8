import PolyMatrix.Proofs.CellMatrix.EmptyCells
import PolyMatrix.Proofs.CellMatrix.StorePrograms

/-!
# Cells of a product

The sum that a cell of a product starts from adds the products of a row and a column in the
order in which their scalar product does, and leaves out what has an empty factor.  As such
a summand would add nothing, the two sums are the same for every kind of coefficient,
however its operations round.
-/

namespace PolyMatrix
namespace CellMatrix

open PolyMatrix.Polynomial

section Values

variable {K : Type}

/-- The values of a row; empty cells count as zero. -/
def rowValues (matrix : CellMatrix K) (row : Nat) : List (Polynomial K) :=
  (List.range matrix.cols).map fun col => matrix.value row col

/-- The values of a column; empty cells count as zero. -/
def columnValues (matrix : CellMatrix K) (col : Nat) : List (Polynomial K) :=
  (List.range matrix.rows).map fun row => matrix.value row col

@[simp] theorem length_rowValues (matrix : CellMatrix K) (row : Nat) :
    (matrix.rowValues row).length = matrix.cols := by
  simp [rowValues]

@[simp] theorem length_columnValues (matrix : CellMatrix K) (col : Nat) :
    (matrix.columnValues col).length = matrix.rows := by
  simp [columnValues]

end Values

variable {K : Type} [Add K] [Mul K] [Coefficient K]
variable {left right : CellMatrix K}

/-- The sum that a cell of a product starts from is the scalar product of the values of a
row and a column. -/
theorem dotProduct_values
    (inner : left.cols = right.rows)
    {row : Nat}
    (inside : row < left.rows)
    (col : Nat) :
    dotProduct (left.rowValues row) (right.columnValues col) =
      .ok (dotCells (left.row row) (right.column col)) := by
  rw [dotProduct_eq_ok_iff]
  constructor
  · simp [inner]
  · rw [dotCells_row_column left right inner inside, dot, rowValues, columnValues, ← inner,
      List.zip_map', List.foldl_map]

/-- The matrix is the product of two others in a context: it has the rows of the first one
and the columns of the second one, and every cell holds the scalar product of its row and
its column, simplified with the rules of the context. -/
structure IsProduct (context : Context K) (left right product : CellMatrix K) : Prop where
  /-- There are as many rows as on the left. -/
  rows : product.rows = left.rows
  /-- There are as many columns as on the right. -/
  cols : product.cols = right.cols
  /-- No cell is empty, and what is read from it is the simplified scalar product. -/
  cells : ∀ row < left.rows, ∀ col < right.cols, ∃ sum,
    dotProduct (left.rowValues row) (right.columnValues col) = .ok sum ∧
      product.entry row col = some (context.simplify sum).value ∧
      product.get row col = .ok (context.simplify sum).value

/-- What multiplying two matrices gives in a context, and what it gives in memory, place by
place. -/
structure MultipliesByCells (context : Context K) (left right : CellMatrix K) : Prop where
  /-- If the inner sizes agree there is a product, and the program on the cells in memory
  ends in it. -/
  product : left.cols = right.rows → ∃ recorded,
    (context.multiply left right).result = .ok recorded ∧
      IsProduct context left right recorded.value ∧
      (Store.of left).multiply context.rules (Store.of right) = pure (Store.of recorded.value)
  /-- If they differ that is the fault, and it is one of dimensions. -/
  mismatch : left.cols ≠ right.rows → ∃ fault,
    (context.multiply left right).result = .error fault ∧
      fault = .innerSizesDiffer left.rows left.cols right.rows right.cols ∧
      fault.kind = .dimension ∧
      (Store.of left).multiply context.rules (Store.of right) = Checked.fail fault

/-- The product as it is computed from cells. -/
theorem isProduct_ofFn
    (inner : left.cols = right.rows)
    (context : Context K) :
    IsProduct context left right (ofFn left.rows right.cols fun row col =>
      some (context.simplify (dotCells (left.row row) (right.column col))).value) where
  rows := rfl
  cols := rfl
  cells row rowInside col colInside := by
    have stored := entry_ofFn (fun row col =>
      some (context.simplify (dotCells (left.row row) (right.column col))).value)
      rowInside colInside
    refine ⟨_, dotProduct_values inner rowInside col, stored, ?_⟩
    rw [get, if_pos ⟨rowInside, colInside⟩, value, stored, Option.getD_some]

/-- Whatever the coefficients and the rules are, a product is computed cell by cell from the
scalar products of rows and columns. -/
theorem multiplies_by_cells (context : Context K) (left right : CellMatrix K) :
    MultipliesByCells context left right where
  product inner := by
    let product : CellMatrix K := ofFn left.rows right.cols fun row col =>
      some (context.simplify (dotCells (left.row row) (right.column col))).value
    have multiplied : (left.multiply context.rules right).result = .ok product := by
      rw [Store.result_multiply, if_pos inner]
      rfl
    refine ⟨context.record "multiply" product product, ?_, ?_, ?_⟩
    · rw [Context.multiply, Attempt.result_bind_of_result multiplied, Attempt.result_pure]
    · rw [Context.value_record]
      exact isProduct_ofFn inner context
    · rw [Context.value_record, Store.multiply_of, multiplied]
      rfl
  mismatch differ := by
    have refused : (left.multiply context.rules right).result =
        .error (.innerSizesDiffer left.rows left.cols right.rows right.cols) := by
      rw [Store.result_multiply, if_neg differ]
    refine ⟨_, ?_, rfl, rfl, ?_⟩
    · rw [Context.multiply, Attempt.result_bind, refused]
      rfl
    · rw [Store.multiply_of, refused]
      rfl

/-- A line with an empty cell and a column under the rule that a square of `x` is two: the
product with the column is a single cell, and the line has none with itself. -/
theorem multiplies_by_cells_line :
    let x : Polynomial Float := .ofTerm (.ofSymbols ["x"]) 1
    let two : Polynomial Float := .constant 2
    let rules : RuleSet Float := ⟨.always, [⟨.ofSymbols ["x", "x"], two⟩]⟩
    let line : CellMatrix Float := ofFn 1 2 fun _ col => if col = 0 then some x else none
    let column : CellMatrix Float := ofFn 2 1 fun _ _ => some x
    line.cols = column.rows ∧ line.cols ≠ line.rows ∧
      dotProduct (line.rowValues 0) (column.columnValues 0) =
        .ok (.ofTerm (.ofSymbols ["x", "x"]) 1) ∧
      (PolyMatrix.simplify (some rules) (.ofTerm (.ofSymbols ["x", "x"]) 1)).value.terms =
        [(.unit, 2)] ∧
      MultipliesByCells ⟨some rules, none⟩ line column ∧
      MultipliesByCells ⟨some rules, none⟩ line line := by
  intro x two rules line column
  refine ⟨rfl, by decide, ?_, ?_, multiplies_by_cells _ line column,
    multiplies_by_cells _ line line⟩
  · rw [dotProduct_eq_ok_iff]
    exact ⟨rfl, rfl⟩
  · rfl

end CellMatrix
end PolyMatrix
