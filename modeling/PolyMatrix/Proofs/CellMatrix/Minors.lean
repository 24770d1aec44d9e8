import PolyMatrix.Coefficient.Exact
import PolyMatrix.Proofs.CellMatrix.StorePrograms

/-!
# Minors

A matrix without one row and one column keeps every other cell: rows behind the gap move up by
one, and columns behind it to the left.  In memory the cells that are left are only gathered
in reading order, and it is their number that says where each of them stands.

Of two cells in different rows and columns either can be taken out first.  The other one has
moved then, and is taken out where it stands.
-/

namespace PolyMatrix

/-! ## Places and gaps -/

namespace CellMatrix

/-- The place that a place moves to where another one is taken out. -/
def closeUp (gap place : Nat) : Nat :=
  if gap < place then place - 1 else place

theorem skip_lt {gap place size : Nat} (inside : place < size - 1) : skip gap place < size := by
  unfold skip
  split <;> omega

theorem closeUp_lt
    {gap place size : Nat}
    (gapInside : gap < size)
    (inside : place < size)
    (different : gap ≠ place) : closeUp gap place < size - 1 := by
  unfold closeUp
  split <;> omega

/-- What has moved to close a gap comes from where it was. -/
theorem skip_closeUp {gap place : Nat} (different : gap ≠ place) :
    skip gap (closeUp gap place) = place := by
  unfold skip closeUp
  split <;> split <;> omega

/-- Two gaps can be opened in either order. -/
theorem skip_skip {gap other : Nat} (different : gap ≠ other) (place : Nat) :
    skip gap (skip (closeUp gap other) place) = skip other (skip (closeUp other gap) place) := by
  unfold skip closeUp
  grind

variable {K : Type}

/-! ## Cells of minors -/

theorem minorAt_of_contains
    (matrix : CellMatrix K)
    {row col : Nat}
    (inside : matrix.Contains row col) : matrix.minorAt row col = .ok (matrix.minor row col) :=
  if_pos inside

/-- A cell that is not taken out stands in the minor where it has moved to. -/
theorem contains_minor
    {matrix : CellMatrix K}
    {row col row' col' : Nat}
    (inside : matrix.Contains row col)
    (inside' : matrix.Contains row' col')
    (rows : row ≠ row')
    (cols : col ≠ col') :
    (matrix.minor row col).Contains (closeUp row row') (closeUp col col') :=
  ⟨closeUp_lt inside.1 inside'.1 rows, closeUp_lt inside.2 inside'.2 cols⟩

/-- The cells of a minor of a minor come from behind both gaps. -/
theorem entry_minor_minor
    (matrix : CellMatrix K)
    {row col row' col' i j : Nat}
    (rowInside : i < matrix.rows - 1 - 1)
    (colInside : j < matrix.cols - 1 - 1) :
    ((matrix.minor row col).minor row' col').entry i j =
      matrix.entry (skip row (skip row' i)) (skip col (skip col' j)) := by
  rw [entry_minor (matrix.minor row col) rowInside colInside,
    entry_minor matrix (skip_lt rowInside) (skip_lt colInside)]

/-- Two cells in different rows and columns can be taken out in either order. -/
theorem minor_minor
    (matrix : CellMatrix K)
    {row col row' col' : Nat}
    (rows : row ≠ row')
    (cols : col ≠ col') :
    (matrix.minor row col).minor (closeUp row row') (closeUp col col') =
      (matrix.minor row' col').minor (closeUp row' row) (closeUp col' col) := by
  refine eq_of_entry_eq rfl rfl rfl fun i rowInside j colInside => ?_
  rw [entry_minor_minor matrix rowInside colInside,
    entry_minor_minor matrix rowInside colInside, skip_skip rows, skip_skip cols]

/-! ## Laws -/

/-- The first matrix without a row and a column is the second one. -/
structure IsMinor (matrix : CellMatrix K) (row col : Nat) (minor : CellMatrix K) : Prop where
  /-- There is one row less. -/
  rows : minor.rows + 1 = matrix.rows
  /-- There is one column less. -/
  cols : minor.cols + 1 = matrix.cols
  /-- The name is not kept. -/
  label : minor.label = none
  /-- Every cell is that of the matrix, be it empty or not, from one row further down behind
  the row that is missing and from one column further right behind the column. -/
  cells : ∀ i < minor.rows, ∀ j < minor.cols, ∃ cell,
    minor.cell i j = .ok cell ∧
      matrix.cell (if row ≤ i then i + 1 else i) (if col ≤ j then j + 1 else j) = .ok cell

theorem isMinor_minor
    {matrix : CellMatrix K}
    {row col : Nat}
    (inside : matrix.Contains row col) : IsMinor matrix row col (matrix.minor row col) where
  rows := Nat.sub_add_cancel (Nat.zero_lt_of_lt inside.1)
  cols := Nat.sub_add_cancel (Nat.zero_lt_of_lt inside.2)
  label := rfl
  cells i rowInside j colInside := by
    have moved (gap place : Nat) : (if gap ≤ place then place + 1 else place) = skip gap place := by
      unfold skip
      split <;> split <;> omega
    refine ⟨_, (cell_eq_ok_iff _ i j _).mpr ⟨⟨rowInside, colInside⟩, rfl⟩, ?_⟩
    rw [cell_eq_ok_iff, moved, moved, entry_minor matrix rowInside colInside]
    exact ⟨⟨skip_lt rowInside, skip_lt colInside⟩, rfl⟩

/-- The matrix without the rows and columns of two of its cells, the first of which is taken
out before the second one. -/
def minorTwice (matrix : CellMatrix K) (row col row' col' : Nat) :
    Except Fault (CellMatrix K) := do
  let minor ← matrix.minorAt row col
  minor.minorAt (closeUp row row') (closeUp col col')

end CellMatrix

open CellMatrix

variable {K : Type}

/-- The same in memory. -/
def Store.minorTwice (store : Store K) (row col row' col' : Nat) : Checked (Store K) := do
  let minor ← store.minorAt row col
  minor.minorAt (closeUp row row') (closeUp col col')

theorem CellMatrix.minorTwice_eq
    {matrix : CellMatrix K}
    {row col row' col' : Nat}
    (inside : matrix.Contains row col)
    (inside' : matrix.Contains row' col')
    (rows : row ≠ row')
    (cols : col ≠ col') :
    matrix.minorTwice row col row' col' =
      .ok ((matrix.minor row col).minor (closeUp row row') (closeUp col col')) := by
  rw [CellMatrix.minorTwice, minorAt_of_contains matrix inside]
  exact minorAt_of_contains _ (contains_minor inside inside' rows cols)

theorem Store.minorTwice_of
    (matrix : CellMatrix K)
    (row col row' col' : Nat) :
    (of matrix).minorTwice row col row' col' =
      Checked.ofOutcome ((matrix.minorTwice row col row' col').map of) := by
  rw [Store.minorTwice, CellMatrix.minorTwice, minorAt_of]
  cases matrix.minorAt row col with
  | error fault => rfl
  | ok minor => exact minorAt_of minor _ _

/-- What is left of a matrix without rows and columns of its cells. -/
structure MinorLaws (matrix : CellMatrix K) : Prop where
  /-- A cell can be taken out with its row and column, and the cells that are gathered in
  memory are those of the minor. -/
  minorAt : ∀ row col, matrix.Contains row col → ∃ minor,
    matrix.minorAt row col = .ok minor ∧
      (Store.of matrix).minorAt row col = pure (Store.of minor) ∧
        IsMinor matrix row col minor
  /-- A second cell has moved then, but is still there. -/
  moved : ∀ row col row' col', matrix.Contains row col → matrix.Contains row' col' →
    row ≠ row' → col ≠ col' → ∃ minor cell,
      matrix.minorAt row col = .ok minor ∧
        minor.cell (closeUp row row') (closeUp col col') = .ok cell ∧
          matrix.cell row' col' = .ok cell
  /-- Which of the two is taken out first makes no difference. -/
  minorTwice : ∀ row col row' col', matrix.Contains row col → matrix.Contains row' col' →
    row ≠ row' → col ≠ col' → ∃ smaller,
      matrix.minorTwice row col row' col' = .ok smaller ∧
        matrix.minorTwice row' col' row col = .ok smaller ∧
          (Store.of matrix).minorTwice row col row' col' = pure (Store.of smaller) ∧
            (Store.of matrix).minorTwice row' col' row col = pure (Store.of smaller)

/-- Minors keep every other cell in its shifted place, and minors of minors do not depend on
the order. -/
theorem minorLaws (matrix : CellMatrix K) : MinorLaws matrix where
  minorAt row col inside := by
    refine ⟨_, minorAt_of_contains matrix inside, ?_, isMinor_minor inside⟩
    rw [Store.minorAt_of, minorAt_of_contains matrix inside]
    rfl
  moved row col row' col' inside inside' rows cols := by
    have contained := contains_minor inside inside' rows cols
    refine ⟨_, _, minorAt_of_contains matrix inside,
      (cell_eq_ok_iff _ _ _ _).mpr ⟨contained, rfl⟩, (cell_eq_ok_iff _ _ _ _).mpr ⟨inside', ?_⟩⟩
    rw [entry_minor matrix contained.1 contained.2, skip_closeUp rows, skip_closeUp cols]
  minorTwice row col row' col' inside inside' rows cols := by
    have first := minorTwice_eq inside inside' rows cols
    have second := minorTwice_eq inside' inside rows.symm cols.symm
    rw [← minor_minor matrix rows cols] at second
    refine ⟨_, first, second, ?_, ?_⟩
    · rw [Store.minorTwice_of, first]
      rfl
    · rw [Store.minorTwice_of, second]
      rfl

/-- Three rows with an empty cell and a name: the first cell of the second row is taken out,
and then the empty cell, or the other way round. -/
theorem minorLaws_hollow :
    let number (value : ℤ) : Cell ℤ := some (.constant value)
    let matrix : CellMatrix ℤ :=
      ⟨3, 3, [number 1, number 2, none, number 4, number 5, number 6, number 7, number 8,
        number 9], some "m", rfl⟩
    matrix.Contains 1 0 ∧ matrix.Contains 0 2 ∧
      (∃ minor, matrix.minorAt 1 0 = .ok minor ∧
        minor.cells = [number 2, none, number 8, number 9] ∧ IsMinor matrix 1 0 minor) ∧
      ∃ smaller, matrix.minorTwice 1 0 0 2 = .ok smaller ∧
        matrix.minorTwice 0 2 1 0 = .ok smaller ∧ smaller.cells = [number 8] := by
  intro number matrix
  have first : matrix.Contains 1 0 := by decide
  have second : matrix.Contains 0 2 := by decide
  obtain ⟨minor, taken, -, isMinor⟩ := (minorLaws matrix).minorAt 1 0 first
  obtain ⟨smaller, takenBoth, takenBack, -⟩ :=
    (minorLaws matrix).minorTwice 1 0 0 2 first second (by decide) (by decide)
  refine ⟨first, second, ⟨minor, taken, ?_, isMinor⟩, smaller, takenBoth, takenBack, ?_⟩
  · cases taken
    cbv
  · cases takenBoth
    cbv

end PolyMatrix
