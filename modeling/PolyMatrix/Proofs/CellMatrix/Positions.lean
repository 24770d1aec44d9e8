import PolyMatrix.CellMatrix.Algebra

/-!
# Cells by position

A matrix is determined by its shape, its label and what stands at every position: its
cells in reading order, its rows and its columns are all read off there.  So matrices are
compared position by position, and transposing exchanges rows and columns.
-/

namespace PolyMatrix
namespace CellMatrix

variable {K : Type}

/-! ## Matrices with the same cells -/

theorem eq_of_cells_eq
    {left right : CellMatrix K}
    (rows : left.rows = right.rows)
    (cols : left.cols = right.cols)
    (cells : left.cells = right.cells)
    (label : left.label = right.label) : left = right := by
  cases left
  cases right
  cases rows
  cases cols
  cases cells
  cases label
  rfl

/-- Every place of a shape is the place of a position. -/
theorem position_of_place {rows cols place : Nat} (inside : place < rows * cols) :
    place / cols < rows ∧ place % cols < cols :=
  ⟨Nat.div_lt_of_lt_mul (by rwa [Nat.mul_comm]),
    Nat.mod_lt _ (Nat.pos_of_mul_pos_left (Nat.zero_lt_of_lt inside))⟩

/-- The cells in reading order are those at the positions of the shape. -/
theorem cells_eq_map_entry (matrix : CellMatrix K) :
    matrix.cells = (List.range (matrix.rows * matrix.cols)).map fun place =>
      matrix.entry (place / matrix.cols) (place % matrix.cols) := by
  apply List.ext_getElem
  · rw [matrix.length_cells, List.length_map, List.length_range]
  · intro place stored _
    have inside : place < matrix.rows * matrix.cols := by rwa [← matrix.length_cells]
    rw [List.getElem_map, List.getElem_range, entry, if_pos (position_of_place inside).2,
      Nat.div_add_mod',
      List.getD_eq_getElem?_getD, List.getElem?_eq_getElem stored, Option.getD_some]

/-- Matrices with the same shape, label and cells at every position are the same. -/
theorem eq_of_entry_eq
    {left right : CellMatrix K}
    (rows : left.rows = right.rows)
    (cols : left.cols = right.cols)
    (label : left.label = right.label)
    (same : ∀ row < left.rows, ∀ col < left.cols,
      left.entry row col = right.entry row col) : left = right := by
  refine eq_of_cells_eq rows cols ?_ label
  rw [cells_eq_map_entry left, cells_eq_map_entry right, ← rows, ← cols]
  apply List.map_congr_left
  intro place member
  have inside := position_of_place (List.mem_range.mp member)
  exact same _ inside.1 _ inside.2

/-- Outside of the shape a matrix given by position has no cells. -/
theorem entry_ofFn_outside
    {rows cols row col : Nat}
    (cell : Nat → Nat → Cell K)
    (outside : ¬(row < rows ∧ col < cols)) :
    (ofFn rows cols cell).entry row col = none :=
  entry_of_not_contains (ofFn rows cols cell) outside

theorem ofFn_congr
    {rows cols : Nat} {left right : Nat → Nat → Cell K}
    (same : ∀ row < rows, ∀ col < cols, left row col = right row col) :
    ofFn rows cols left = ofFn rows cols right := by
  refine eq_of_entry_eq rfl rfl rfl fun row rowInside col colInside => ?_
  change row < rows at rowInside
  change col < cols at colInside
  rw [entry_ofFn left rowInside colInside, entry_ofFn right rowInside colInside]
  exact same row rowInside col colInside

/-- Matrices given by position are the same if they are at every position of the shape. -/
theorem ofFn_eq_iff {rows cols : Nat} {left right : Nat → Nat → Cell K} :
    ofFn rows cols left = ofFn rows cols right ↔
      ∀ row < rows, ∀ col < cols, left row col = right row col := by
  refine ⟨fun same row rowInside col colInside => ?_, ofFn_congr⟩
  rw [← entry_ofFn left rowInside colInside, same, entry_ofFn right rowInside colInside]

/-- What holds at every place of a shape holds at every position. -/
theorem forall_place_iff {rows cols : Nat} (property : Nat → Nat → Prop) :
    (∀ place < rows * cols, property (place / cols) (place % cols)) ↔
      ∀ row < rows, ∀ col < cols, property row col := by
  constructor
  · intro holds row rowInside col colInside
    have atPlace := holds _ (place_lt rowInside colInside)
    rwa [Nat.mul_comm, Nat.mul_add_div (by omega), Nat.div_eq_of_lt colInside,
      Nat.add_zero, Nat.mul_add_mod, Nat.mod_eq_of_lt colInside] at atPlace
  · intro holds place inside
    have position := position_of_place inside
    exact holds _ position.1 _ position.2

/-! ## Rows of one length -/

/-- Rows of one length have as many items as their shape. -/
theorem length_flatten
    {α : Type}
    {rows : List (List α)}
    {cols : Nat}
    (uniform : ∀ row ∈ rows, row.length = cols) :
    rows.flatten.length = rows.length * cols := by
  rw [List.length_flatten, List.map_eq_replicate_iff.mpr uniform, List.sum_replicate_nat]

/-- In rows of one length the place of an item follows from its row and its column. -/
theorem getElem?_flatten
    {α : Type}
    {rows : List (List α)}
    {cols : Nat}
    (uniform : ∀ row ∈ rows, row.length = cols)
    {col : Nat}
    (inside : col < cols)
    (row : Nat) : rows.flatten[row * cols + col]? = rows[row]?.bind (·[col]?) := by
  induction rows generalizing row with
  | nil => rfl
  | cons first rest inductionHypothesis =>
      rw [List.forall_mem_cons] at uniform
      rw [List.flatten_cons]
      cases row with
      | zero =>
          rw [Nat.zero_mul, Nat.zero_add, List.getElem?_append_left (by omega)]
          rfl
      | succ row =>
          have behind : (row + 1) * cols + col = first.length + (row * cols + col) := by
            rw [uniform.1, Nat.succ_mul]
            omega
          rw [behind, List.getElem?_append_right (Nat.le_add_right _ _),
            Nat.add_sub_cancel_left, inductionHypothesis uniform.2]
          rfl

/-! ## Comparing matrices -/

/-- Matrices count as equal if their shapes are the same and their cells count as equal at
every position. -/
theorem agrees_iff [Coefficient K] (left right : CellMatrix K) :
    left.agrees right = true ↔ left.rows = right.rows ∧ left.cols = right.cols ∧
      ∀ row < left.rows, ∀ col < left.cols,
        cellsAgree (left.entry row col) (right.entry row col) = true := by
  rw [agrees, Bool.and_eq_true, Bool.and_eq_true, beq_iff_eq, beq_iff_eq, and_assoc]
  refine and_congr_right fun rows => and_congr_right fun cols => ?_
  rw [cells_eq_map_entry left, cells_eq_map_entry right, ← rows, ← cols, List.zip_map',
    List.all_map, List.all_eq_true]
  simp only [List.mem_range, Function.comp]
  exact forall_place_iff fun row col =>
    cellsAgree (left.entry row col) (right.entry row col) = true

/-! ## Values -/

theorem value_ofFn
    {rows cols row col : Nat}
    (cell : Nat → Nat → Cell K)
    (rowInside : row < rows)
    (colInside : col < cols) :
    (ofFn rows cols cell).value row col = (cell row col).getD .zero := by
  rw [value, entry_ofFn cell rowInside colInside]

theorem value_of_not_contains
    (matrix : CellMatrix K)
    {row col : Nat}
    (outside : ¬matrix.Contains row col) : matrix.value row col = .zero := by
  rw [value, entry_of_not_contains matrix outside, Option.getD_none]

/-- What leaves zero as it is can be done to values instead of cells. -/
theorem value_map
    (matrix : CellMatrix K)
    {f : Polynomial K → Polynomial K}
    (zero : f .zero = .zero)
    (row col : Nat) : (matrix.map f).value row col = f (matrix.value row col) := by
  rw [value, value, entry_map]
  cases matrix.entry row col with
  | none => exact zero.symm
  | some p => rfl

theorem value_transpose (matrix : CellMatrix K) (row col : Nat) :
    matrix.transpose.value row col = matrix.value col row := by
  rw [value, value, entry_transpose]

theorem value_minor
    (matrix : CellMatrix K)
    {row col i j : Nat}
    (rowInside : i < matrix.rows - 1)
    (colInside : j < matrix.cols - 1) :
    (matrix.minor row col).value i j = matrix.value (skip row i) (skip col j) := by
  rw [value, value, entry_minor matrix rowInside colInside]

/-! ## Rows and columns -/

/-- A row has the cells of its positions. -/
theorem row_eq_map_entry
    (matrix : CellMatrix K)
    {place : Nat}
    (inside : place < matrix.rows) :
    matrix.row place = (List.range matrix.cols).map (matrix.entry place) := by
  have behind : place * matrix.cols + matrix.cols ≤ matrix.cells.length := by
    rw [matrix.length_cells, ← Nat.succ_mul]
    exact Nat.mul_le_mul_right matrix.cols inside
  apply List.ext_getElem
  · rw [row, List.length_take, List.length_drop, List.length_map, List.length_range]
    omega
  · intro col _ stored
    rw [List.length_map, List.length_range] at stored
    have found : place * matrix.cols + col < matrix.cells.length := by omega
    simp only [row, List.getElem_take, List.getElem_drop, List.getElem_map,
      List.getElem_range, entry, if_pos stored]
    rw [List.getD_eq_getElem?_getD, List.getElem?_eq_getElem found, Option.getD_some]

/-- The rows of a transposed matrix are the columns of the matrix. -/
theorem row_transpose
    (matrix : CellMatrix K)
    {place : Nat}
    (inside : place < matrix.cols) :
    matrix.transpose.row place = matrix.column place := by
  have rowInside : place < matrix.transpose.rows := inside
  rw [row_eq_map_entry _ rowInside]
  exact List.map_congr_left fun row _ => entry_transpose matrix place row

/-- The columns of a transposed matrix are the rows of the matrix. -/
theorem column_transpose
    (matrix : CellMatrix K)
    {place : Nat}
    (inside : place < matrix.rows) :
    matrix.transpose.column place = matrix.row place := by
  rw [row_eq_map_entry _ inside]
  exact List.map_congr_left fun col _ => entry_transpose matrix col place

/-- Transposing twice changes nothing but the label. -/
theorem transpose_transpose (matrix : CellMatrix K) :
    matrix.transpose.transpose.withLabel? matrix.label = matrix := by
  apply eq_of_entry_eq
  · rfl
  · rfl
  · rfl
  · intro row _ col _
    exact (entry_transpose matrix.transpose row col).trans (entry_transpose matrix col row)

end CellMatrix
end PolyMatrix
