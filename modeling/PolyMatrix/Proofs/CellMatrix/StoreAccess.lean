import Mathlib.Data.List.Basic
import Mathlib.Tactic.ByContra
import PolyMatrix.Proofs.CellMatrix.Positions
import PolyMatrix.Proofs.CellMatrix.Store

/-!
# Access to stored cells

A matrix in memory has a cell at the place of every position of its shape, and every place
comes from a position, whichever of the two sizes is zero.  So each way in which a program
gets at cells is without breach: at a position, along all places, by writing to computed
places, and by gathering what lies outside of a row and a column.
-/

namespace PolyMatrix

namespace Checked

variable {α ι σ : Type}

/-! ## Single steps -/

theorem read_eq_pure
    {elements : List α}
    {place : Nat}
    {element : α}
    (found : elements[place]? = some element) : read elements place = pure element := by
  rw [read, found]

theorem write_eq_pure
    {elements : List α}
    {place : Nat}
    (inside : place < elements.length)
    (element : α) : write elements place element = pure (elements.set place element) :=
  if_pos inside

theorem quotient_eq_pure {place size : Nat} (positive : size ≠ 0) :
    quotient place size = pure (place / size) :=
  if_neg positive

theorem remainder_eq_pure {place size : Nat} (positive : size ≠ 0) :
    remainder place size = pure (place % size) :=
  if_neg positive

theorem oneLess_eq_pure {size : Nat} (positive : 0 < size) :
    oneLess size = pure (size - 1) := by
  obtain ⟨size, rfl⟩ := Nat.exists_eq_add_one.mpr positive
  rfl

/-! ## Runs of steps -/

theorem foldlM_congr
    {step other : σ → ι → Checked σ}
    {items : List ι}
    (each : ∀ item ∈ items, ∀ state, step state item = other state item)
    (start : σ) : items.foldlM step start = items.foldlM other start := by
  induction items generalizing start with
  | nil => rfl
  | cons item rest inductionHypothesis =>
      rw [List.forall_mem_cons] at each
      rw [List.foldlM_cons, List.foldlM_cons, each.1]
      exact bind_congr fun state => inductionHypothesis each.2 state

/-- A run is without fault and breach if each of its steps is. -/
theorem foldlM_eq_pure
    {step : σ → ι → Checked σ}
    {next : σ → ι → σ}
    {items : List ι}
    (each : ∀ item ∈ items, ∀ state, step state item = pure (next state item))
    (start : σ) : items.foldlM step start = pure (items.foldl next start) :=
  (foldlM_congr each start).trans List.foldlM_pure

/-- A run is without fault and breach if each of its steps is where an invariant holds, which
it keeps. -/
theorem foldlM_eq_pure_of_holds
    (Holds : σ → Prop)
    {step : σ → ι → Checked σ}
    {next : σ → ι → σ}
    {items : List ι}
    (each : ∀ state, Holds state → ∀ item ∈ items,
      step state item = pure (next state item) ∧ Holds (next state item))
    {start : σ}
    (starts : Holds start) :
    items.foldlM step start = pure (items.foldl next start) ∧
      Holds (items.foldl next start) := by
  induction items generalizing start with
  | nil => exact ⟨rfl, starts⟩
  | cons item rest inductionHypothesis =>
      obtain ⟨stepped, holds⟩ := each start starts item List.mem_cons_self
      rw [List.foldlM_cons, stepped, pure_bind, List.foldl_cons]
      exact inductionHypothesis
        (fun state holds other member =>
          each state holds other (List.mem_cons_of_mem item member)) holds

/-- A run has a result if each of its steps has one. -/
theorem exists_foldlM
    {step : σ → ι → Checked σ}
    {items : List ι}
    (each : ∀ item ∈ items, ∀ state, ∃ next, step state item = pure next)
    (start : σ) : ∃ final, items.foldlM step start = pure final := by
  induction items generalizing start with
  | nil => exact ⟨start, rfl⟩
  | cons item rest inductionHypothesis =>
      rw [List.forall_mem_cons] at each
      obtain ⟨next, stepped⟩ := each.1 start
      rw [List.foldlM_cons, stepped, pure_bind]
      exact inductionHypothesis each.2 next

theorem mapM_eq_pure
    {f : ι → Checked α}
    {g : ι → α}
    {items : List ι}
    (each : ∀ item ∈ items, f item = pure (g item)) :
    items.mapM f = pure (items.map g) := by
  induction items with
  | nil => rfl
  | cons item rest inductionHypothesis =>
      rw [List.forall_mem_cons] at each
      rw [List.mapM_cons, each.1, inductionHypothesis each.2, pure_bind, pure_bind,
        List.map_cons]

/-- Elements that are written in agreement with a function are those of the function,
wherever something is written and wherever they were before. -/
theorem getElem?_foldl_set
    {place : ι → Nat}
    {element : ι → α}
    {f : Nat → α}
    {items : List ι}
    (agree : ∀ item ∈ items, element item = f (place item))
    {start : List α}
    {index : Nat}
    (inside : index < start.length)
    (covered : (∃ item ∈ items, place item = index) ∨ start[index]? = some (f index)) :
    (items.foldl (fun elements item => elements.set (place item) (element item)) start)[index]? =
      some (f index) := by
  induction items generalizing start with
  | nil =>
      rcases covered with ⟨item, member, _⟩ | before
      · exact absurd member List.not_mem_nil
      · exact before
  | cons item rest inductionHypothesis =>
      rw [List.forall_mem_cons] at agree
      rw [List.foldl_cons]
      apply inductionHypothesis agree.2 (by rwa [List.length_set])
      by_cases here : place item = index
      · right
        rw [here, List.getElem?_set_self inside, agree.1, here]
      · rw [List.getElem?_set_ne here]
        rcases covered with ⟨other, member, found⟩ | before
        · rcases List.mem_cons.mp member with rfl | later
          · exact absurd found here
          · exact .inl ⟨other, later, found⟩
        · exact .inr before

/-- Writing in agreement with a function, until every place agrees, is without breach. -/
theorem foldlM_write_eq_pure
    {place : ι → Nat}
    {element : ι → α}
    {f : Nat → α}
    {items : List ι}
    {start : List α}
    (inside : ∀ item ∈ items, place item < start.length)
    (agree : ∀ item ∈ items, element item = f (place item))
    (covered : ∀ index < start.length,
      (∃ item ∈ items, place item = index) ∨ start[index]? = some (f index)) :
    items.foldlM (fun elements item => write elements (place item) (element item)) start =
      pure ((List.range start.length).map f) := by
  obtain ⟨run, length⟩ :
      items.foldlM (fun elements item => write elements (place item) (element item)) start =
          pure (items.foldl (fun elements item => elements.set (place item) (element item))
            start) ∧
        (items.foldl (fun elements item => elements.set (place item) (element item))
          start).length = start.length :=
    foldlM_eq_pure_of_holds (fun elements => elements.length = start.length)
      (fun elements length item member =>
        ⟨write_eq_pure (by rw [length]; exact inside item member) _,
          (List.length_set ..).trans length⟩) rfl
  rw [run]
  refine congrArg pure (List.ext_getElem? fun index => ?_)
  by_cases below : index < start.length
  · rw [getElem?_foldl_set agree below (covered index below), List.getElem?_map,
      List.getElem?_range below]
    rfl
  · rw [List.getElem?_eq_none (by omega), List.getElem?_eq_none (by simpa using below)]

end Checked

/-! ## Places in reading order -/

section Places

variable {α : Type}

theorem div_of_place {cols row col : Nat} (inside : col < cols) :
    (row * cols + col) / cols = row := by
  rw [Nat.mul_comm, Nat.mul_add_div (by omega), Nat.div_eq_of_lt inside, Nat.add_zero]

theorem mod_of_place {cols row col : Nat} (inside : col < cols) :
    (row * cols + col) % cols = col := by
  rw [Nat.mul_comm, Nat.mul_add_mod, Nat.mod_eq_of_lt inside]

/-- Going through the places of a shape is going through its rows, and through the columns
of each. -/
theorem flatMap_range_mul (rows cols : Nat) (f : Nat → Nat → List α) :
    ((List.range (rows * cols)).flatMap fun place => f (place / cols) (place % cols)) =
      (List.range rows).flatMap fun row => (List.range cols).flatMap (f row) := by
  induction rows with
  | zero => rw [Nat.zero_mul, List.range_zero, List.flatMap_nil, List.flatMap_nil]
  | succ rows inductionHypothesis =>
      have last : (List.range cols).flatMap
          (fun col => f ((rows * cols + col) / cols) ((rows * cols + col) % cols)) =
            (List.range cols).flatMap (f rows) := by
        apply List.flatMap_congr
        intro col member
        rw [div_of_place (List.mem_range.mp member), mod_of_place (List.mem_range.mp member)]
      rw [Nat.succ_mul, List.range_add, List.flatMap_append, inductionHypothesis,
        List.flatMap_map, last, List.range_succ, List.flatMap_append, List.flatMap_singleton]

/-- Going through all places but one is going through as many places less one, with a gap. -/
theorem flatMap_range_skip {size gap : Nat} (inside : gap < size) (f : Nat → List α) :
    ((List.range size).flatMap fun place => if place ≠ gap then f place else []) =
      (List.range (size - 1)).flatMap fun place => f (CellMatrix.skip gap place) := by
  obtain ⟨rest, rfl⟩ := Nat.exists_eq_add_of_lt inside
  have below : ∀ place ∈ List.range gap,
      (if place ≠ gap then f place else []) = f (CellMatrix.skip gap place) := by
    intro place member
    have before : place < gap := List.mem_range.mp member
    rw [if_pos (Nat.ne_of_lt before), CellMatrix.skip, if_pos before]
  have behind : ∀ place ∈ List.range rest,
      (if gap + 1 + place ≠ gap then f (gap + 1 + place) else []) =
        f (CellMatrix.skip gap (gap + place)) := by
    intro place _
    rw [if_pos (by omega), CellMatrix.skip, if_neg (by omega)]
    congr 1
    omega
  have shape : gap + rest + 1 = gap + 1 + rest := by omega
  rw [Nat.add_sub_cancel, shape, List.range_add (n := gap + 1), List.range_succ,
    List.range_add (n := gap)]
  simp only [List.flatMap_append, List.flatMap_map, List.flatMap_singleton]
  rw [List.flatMap_congr below, List.flatMap_congr behind, if_neg (not_not_intro rfl),
    List.append_nil]

/-- Going through the places outside of a row and a column is going through the places of
the shape that is left. -/
theorem flatMap_range_outside
    {rows cols row col : Nat}
    (rowInside : row < rows)
    (colInside : col < cols)
    (f : Nat → Nat → α) :
    ((List.range (rows * cols)).flatMap fun place =>
      if place / cols ≠ row ∧ place % cols ≠ col then [f (place / cols) (place % cols)]
      else []) =
    (List.range ((rows - 1) * (cols - 1))).map fun place =>
      f (CellMatrix.skip row (place / (cols - 1)))
        (CellMatrix.skip col (place % (cols - 1))) := by
  have ofRow : ∀ i, ((List.range cols).flatMap fun j =>
      if i ≠ row ∧ j ≠ col then [f i j] else []) =
        if i ≠ row then
          (List.range (cols - 1)).flatMap fun j => [f i (CellMatrix.skip col j)]
        else [] := by
    intro i
    rw [← flatMap_range_skip colInside fun j => [f i j]]
    by_cases here : i = row
    · simp [here]
    · simp [here]
  rw [flatMap_range_mul rows cols fun i j => if i ≠ row ∧ j ≠ col then [f i j] else []]
  simp only [ofRow]
  rw [flatMap_range_skip rowInside, List.map_eq_flatMap]
  exact (flatMap_range_mul (rows - 1) (cols - 1) fun i j =>
    [f (CellMatrix.skip row i) (CellMatrix.skip col j)]).symm

end Places

namespace Store

open Checked

variable {K : Type} {σ : Type} (matrix : CellMatrix K)

/-! ## Cells of matrices in memory -/

@[simp] theorem rows_of : (of matrix).rows = matrix.rows :=
  rfl

theorem getElem?_cells {row col : Nat} (inside : matrix.Contains row col) :
    matrix.cells[row * matrix.cols + col]? = some (matrix.entry row col) := by
  have found : row * matrix.cols + col < matrix.cells.length := by
    rw [matrix.length_cells]
    exact CellMatrix.place_lt inside.1 inside.2
  rw [CellMatrix.entry, if_pos inside.2, List.getD_eq_getElem?_getD,
    List.getElem?_eq_getElem found, Option.getD_some]

/-- Inside of the shape a cell can be read at its place. -/
theorem read_of {row col : Nat} (inside : matrix.Contains row col) :
    read (of matrix).cells (row * (of matrix).cols + col) = pure (matrix.entry row col) :=
  read_eq_pure (getElem?_cells matrix inside)

theorem placeOf_of {row col : Nat} (inside : matrix.Contains row col) :
    (of matrix).placeOf row col = pure (row * matrix.cols + col) := by
  apply if_neg
  rintro (outside | outside)
  · exact absurd inside.1 (Nat.not_lt.mpr outside)
  · exact absurd inside.2 (Nat.not_lt.mpr outside)

theorem placeOf_of_not_contains {row col : Nat} (outside : ¬matrix.Contains row col) :
    (of matrix).placeOf row col = fail (matrix.outsideFault row col) := by
  apply if_pos
  by_contra inside
  rw [not_or, Nat.not_le, Nat.not_le] at inside
  exact outside inside

/-- Visiting the cells is going through the places of the shape. -/
theorem visit_of (step : σ → Nat → Cell K → Checked σ) (start : σ) :
    (of matrix).visit step start =
      (List.range (matrix.rows * matrix.cols)).foldlM
        (fun state place =>
          step state place (matrix.entry (place / matrix.cols) (place % matrix.cols)))
        start := by
  have cells : (of matrix).cells.zipIdx =
      (List.range (matrix.rows * matrix.cols)).map fun place =>
        (matrix.entry (place / matrix.cols) (place % matrix.cols), place) := by
    change matrix.cells.zipIdx = _
    conv_lhs => rw [CellMatrix.cells_eq_map_entry matrix]
    apply List.ext_getElem
    · simp
    · intro place _ _
      simp
  rw [visit, cells, List.foldlM_map]

/-- No place is divided by zero: a matrix without columns has no cells to visit. -/
theorem iterate_of (step : σ → Nat → Nat → Cell K → Checked σ) (start : σ) :
    (of matrix).iterate step start =
      (List.range (matrix.rows * matrix.cols)).foldlM
        (fun state place =>
          step state (place / matrix.cols) (place % matrix.cols)
            (matrix.entry (place / matrix.cols) (place % matrix.cols)))
        start := by
  rw [iterate, visit_of]
  apply foldlM_congr
  intro place member state
  have positive : (of matrix).cols ≠ 0 :=
    Nat.ne_zero_of_lt (CellMatrix.position_of_place (List.mem_range.mp member)).2
  rw [quotient_eq_pure positive, remainder_eq_pure positive, pure_bind, pure_bind]
  rfl

end Store
end PolyMatrix
