import PolyMatrix.Proofs.Attempt
import PolyMatrix.Proofs.CellMatrix.Grid
import PolyMatrix.Proofs.CellMatrix.Products
import PolyMatrix.Proofs.CellMatrix.StoreAccess
import PolyMatrix.Proofs.Text.Cutting

/-!
# Programs on stores do what operations on matrices do

On a matrix in memory every program ends as the operation on the matrix does, in the same
value or the same fault.  So no program has a breach there: every place it computes is in
range, it never divides by a column count of zero, and where it takes success for granted it
succeeds.
-/

namespace PolyMatrix
namespace Store

open Checked

variable {K : Type}

/-! ## Building stores -/

/-- As many cells as the shape has make a store, and that is taken for granted. -/
theorem certain_ofCells
    (matrix : CellMatrix K)
    {cells : List (Cell K)}
    (same : cells = matrix.cells)
    (unnamed : matrix.label = none) :
    certain (ofCells matrix.rows matrix.cols cells) = pure (of matrix) := by
  have counted : checkCount matrix.rows matrix.cols cells.length = pure () :=
    if_pos (by rw [same, matrix.length_cells])
  rw [ofCells, counted, pure_bind, of, unnamed, same]
  rfl

theorem ofCells_eq (rows cols : Nat) (cells : List (Cell K)) :
    ofCells rows cols cells = ofOutcome ((CellMatrix.ofCells rows cols cells).map of) := by
  unfold ofCells checkCount CellMatrix.ofCells
  by_cases count : cells.length = rows * cols
  · rw [if_pos count.symm, dif_pos count]
    rfl
  · rw [if_neg (Ne.symm count), dif_neg count]
    rfl

theorem empty_eq (rows cols : Nat) :
    (empty rows cols : Store K) = of (CellMatrix.empty rows cols) := by
  simp only [empty, of, CellMatrix.empty, CellMatrix.ofFn, List.map_const', List.length_range]

theorem ofScalars_eq [Add K] [Coefficient K] (rows cols : Nat) (scalars : List K) :
    ofScalars rows cols scalars =
      ofOutcome ((CellMatrix.ofScalars rows cols scalars).map of) := by
  let cells : List (Cell K) := scalars.map fun scalar => some (.constant scalar)
  have same : CellMatrix.ofScalars rows cols scalars = CellMatrix.ofCells rows cols cells := by
    rw [CellMatrix.ofScalars, CellMatrix.ofPolynomials, List.map_map]
    rfl
  have length : cells.length = scalars.length := List.length_map _
  rw [same, ← ofCells_eq, ofScalars]
  change (checkCount _ _ _ >>= fun _ => certain (ofCells rows cols cells)) = _
  unfold ofCells
  rw [length]
  unfold checkCount
  split <;> rfl

/-- The places of a diagonal are those that a square has the same row and column at. -/
theorem diagonal_eq (size : Nat) (value : Polynomial K) :
    diagonal size value = pure (of (CellMatrix.diagonal size value)) := by
  let cells : List (Cell K) := (empty size size : Store K).cells
  have length : cells.length = size * size := List.length_replicate
  have run : (List.range size).foldlM
      (fun cells place => write cells (place * size + place) (some value)) cells =
        pure ((List.range cells.length).map fun place =>
          if place / size = place % size then some value else none) := by
    apply foldlM_write_eq_pure
    · intro place member
      have inside : place < size := List.mem_range.mp member
      rw [length]
      exact CellMatrix.place_lt inside inside
    · intro place member
      have inside : place < size := List.mem_range.mp member
      rw [div_of_place inside, mod_of_place inside, if_pos rfl]
    · intro place inside
      rw [length] at inside
      by_cases onDiagonal : place / size = place % size
      · have restored := Nat.div_add_mod' place size
        rw [← onDiagonal] at restored
        exact .inl ⟨place / size, List.mem_range.mpr (Nat.div_lt_of_lt_mul inside), restored⟩
      · right
        rw [if_neg onDiagonal]
        exact List.getElem?_replicate_of_lt inside
  rw [length] at run
  change ((List.range size).foldlM _ cells >>= _) = _
  rw [run]
  rfl

/-- What gives a matrix in memory also gives it under a label. -/
theorem labelled_eq
    {program : Checked (Store K)}
    {attempt : Attempt (CellMatrix K)}
    (same : program = ofOutcome (attempt.result.map of))
    (label : Option String) :
    (program >>= fun store => pure { store with label }) =
      ofOutcome ((attempt >>= fun matrix =>
        pure (matrix.withLabel? label)).result.map of) := by
  rw [same, Attempt.result_bind]
  cases attempt.result <;> rfl

section Reading

variable [Add K] [Neg K] [Mul K] [Coefficient K]

theorem length_of_parseCells
    {texts : List String}
    {cells : List (Cell K)}
    (parsed : (CellMatrix.parseCells texts).result = .ok cells) :
    cells.length = texts.length :=
  (Attempt.result_mapM_eq_ok_iff.mp parsed).length_eq.symm

/-- Cells that were read are as many as their texts. -/
theorem certain_parseCells
    {rows cols : Nat}
    {texts : List String}
    (count : texts.length = rows * cols) :
    (do
      let cells ← ofOutcome (CellMatrix.parseCells texts).result
      certain (ofCells rows cols cells) : Checked (Store K)) =
    ofOutcome (((CellMatrix.parseCells texts).result >>=
      CellMatrix.ofCells rows cols).map of) := by
  cases parsed : (CellMatrix.parseCells (K := K) texts).result with
  | error fault => rfl
  | ok cells =>
      have counted : cells.length = rows * cols :=
        (length_of_parseCells parsed).trans count
      change certain (ofCells rows cols cells) =
        ofOutcome ((CellMatrix.ofCells rows cols cells).map of)
      rw [ofCells_eq, CellMatrix.ofCells, dif_pos counted]
      rfl

theorem ofTexts_eq (rows cols : Nat) (texts : List String) :
    (ofTexts rows cols texts : Checked (Store K)) =
      ofOutcome ((CellMatrix.ofTexts rows cols texts).result.map of) := by
  unfold ofTexts CellMatrix.ofTexts checkCount
  split
  · rename_i count
    rw [pure_bind, certain_parseCells count.symm, Attempt.result_bind]
    rfl
  · rfl

/-- Rows that are all of one length have as many cells as their shape. -/
theorem length_flatten_of_findIdx?
    {rows : List (List (List Char))}
    {cols : Nat}
    (noneOther : rows.findIdx? (fun row => row.length != cols) = none) :
    rows.flatten.length = rows.length * cols :=
  CellMatrix.length_flatten fun row member =>
    bne_eq_false_iff_eq.mp (List.findIdx?_eq_none_iff.mp noneOther row member)

theorem ofGrid_eq {rows : List (List (List Char))} (someRow : rows ≠ []) :
    (ofGrid rows : Checked (Store K)) =
      ofOutcome ((CellMatrix.ofGrid rows).result.map of) := by
  obtain ⟨first, rest, rfl⟩ := List.exists_cons_of_ne_nil someRow
  have front : read (first :: rest) 0 = pure first := rfl
  rw [ofGrid, front, pure_bind, CellMatrix.ofGrid, Attempt.result_bind,
    Attempt.result_ofExcept, CellMatrix.checkLengths, List.headD_cons]
  cases other : (first :: rest).findIdx? fun row => row.length != first.length with
  | some bad =>
      have inside : bad < (first :: rest).length :=
        (List.findIdx?_eq_some_iff_findIdx_eq.mp other).1
      have found := List.getElem?_eq_getElem inside
      have filled : (first :: rest).getD bad [] = (first :: rest)[bad] := by
        rw [List.getD_eq_getElem?_getD, found, Option.getD_some]
      change (read (first :: rest) bad >>= _) =
        fail (.raggedRow bad ((first :: rest).getD bad []).length first.length)
      rw [read_eq_pure found, pure_bind, filled]
  | none =>
      refine (certain_parseCells ?_).trans ?_
      · rw [List.length_map, length_flatten_of_findIdx? other]
      · change _ = ofOutcome (Except.map of (Attempt.result _))
        rw [Attempt.result_bind]
        rfl

theorem ne_nil_of_grid
    {source : String}
    {body : List Char}
    {rows : List (List (List Char))}
    (read : CellMatrix.grid source body = .ok rows) : rows ≠ [] := by
  obtain ⟨texts, laidOut, rfl⟩ := CellMatrix.grid_eq_ok_iff.mp read
  rw [ne_eq, List.map_eq_nil_iff]
  exact laidOut.someRow

theorem fromRows_eq (source : String) (body : List Char) :
    (ofOutcome (CellMatrix.grid source body) >>= ofGrid : Checked (Store K)) =
      ofOutcome ((Attempt.ofExcept (CellMatrix.grid source body) >>=
        CellMatrix.ofGrid : Attempt (CellMatrix K)).result.map of) := by
  rw [Attempt.result_bind, Attempt.result_ofExcept]
  cases read : CellMatrix.grid source body with
  | error fault => rfl
  | ok rows => exact ofGrid_eq (ne_nil_of_grid read)

theorem parseBody_eq
    (source : String)
    (header : CellMatrix.Header)
    (body : List Char) :
    (parseBody source header body : Checked (Store K)) =
      ofOutcome ((CellMatrix.parseBody source header body).result.map of) := by
  have withRows := labelled_eq (K := K) (fromRows_eq source body) header.label
  unfold parseBody CellMatrix.parseBody
  cases header.shape with
  | none => exact withRows
  | some shape =>
      have hollow : (pure (empty shape.1 shape.2) : Checked (Store K)) = ofOutcome
          ((pure (CellMatrix.empty shape.1 shape.2) : Attempt (CellMatrix K)).result.map
            of) := by
        rw [empty_eq]
        rfl
      dsimp only
      split
      · exact labelled_eq hollow header.label
      · exact withRows

theorem parse_eq (source : String) :
    (parse source : Checked (Store K)) =
      ofOutcome ((CellMatrix.parse source).result.map of) := by
  unfold parse CellMatrix.parse
  cases CellMatrix.Header.split? source.toList with
  | none => exact parseBody_eq source ⟨none, none⟩ source.toList
  | some found => exact parseBody_eq source found.1 found.2

end Reading

/-! ## Using cells -/

variable (matrix : CellMatrix K)

theorem cell_of (row col : Nat) :
    (of matrix).cell row col = ofOutcome (matrix.cell row col) := by
  unfold cell CellMatrix.cell
  split
  · rename_i inside
    rw [placeOf_of matrix inside, pure_bind]
    exact read_of matrix inside
  · rename_i outside
    rw [placeOf_of_not_contains matrix outside]
    rfl

theorem get_of (row col : Nat) :
    (of matrix).get row col = ofOutcome (matrix.get row col) := by
  rw [get, cell_of]
  unfold CellMatrix.cell CellMatrix.get
  split <;> rfl

theorem certain_cell {row col : Nat} (inside : matrix.Contains row col) :
    certain ((of matrix).cell row col) = pure (matrix.entry row col) := by
  rw [cell_of, CellMatrix.cell, if_pos inside]
  rfl

theorem certain_get {row col : Nat} (inside : matrix.Contains row col) :
    certain ((of matrix).get row col) = pure (matrix.value row col) := by
  rw [get_of, CellMatrix.get, if_pos inside]
  rfl

theorem set_of (row col : Nat) (cell : Cell K) :
    (of matrix).set row col cell = ofOutcome ((matrix.set row col cell).map of) := by
  unfold set CellMatrix.set
  split
  · rename_i inside
    have placed : row * matrix.cols + col < (of matrix).cells.length := by
      rw [of, matrix.length_cells]
      exact CellMatrix.place_lt inside.1 inside.2
    rw [placeOf_of matrix inside, pure_bind, write_eq_pure placed]
    rfl
  · rename_i outside
    rw [placeOf_of_not_contains matrix outside]
    rfl

theorem records_of [Coefficient K] :
    (of matrix).records = pure ((List.range matrix.rows).map fun row =>
      (matrix.row row).map CellMatrix.cellText) := by
  apply mapM_eq_pure
  intro row member
  have rowInside : row < matrix.rows := List.mem_range.mp member
  rw [CellMatrix.row_eq_map_entry matrix rowInside, List.map_map]
  apply mapM_eq_pure
  intro col member
  rw [read_of matrix ⟨rowInside, List.mem_range.mp member⟩, pure_bind]
  rfl

/-! ## Text -/

section Text

variable [Coefficient K]

/-- The pieces of the cells of a row are its line. -/
theorem pieces_eq_rowText (row : Nat → Cell K) (last : Nat) :
    ((List.range (last + 1)).flatMap fun col => (piece (last + 1) col (row col)).toList) =
      (CellMatrix.rowText ((List.range (last + 1)).map row)).toList := by
  let text (col : Nat) : List Char := (CellMatrix.cellText (row col)).toList
  let closed (col : Nat) : List Char :=
    text col ++ (if col + 1 < last + 1 then ",  " else ";").toList
  -- Only the first piece opens the line.
  have opened : ((List.range (last + 1)).flatMap fun col =>
      (piece (last + 1) col (row col)).toList) =
        "\n  ".toList ++ (List.range (last + 1)).flatMap closed := by
    rw [List.range_succ_eq_map, List.flatMap_cons, List.flatMap_cons, List.flatMap_map,
      List.flatMap_map]
    simp only [piece, String.toList_append, if_true, Nat.succ_ne_zero, if_false,
      String.toList_empty, List.nil_append, List.append_assoc, closed, text]
  -- Only the last piece closes it.
  have ended : (List.range (last + 1)).flatMap closed =
      ((List.range last).flatMap fun col => text col ++ ",  ".toList) ++
        (text last ++ ";".toList) := by
    rw [List.range_succ, List.flatMap_append, List.flatMap_singleton]
    congr 1
    · apply List.flatMap_congr
      intro col member
      have before : col + 1 < last + 1 := Nat.succ_lt_succ (List.mem_range.mp member)
      simp only [closed, if_pos before]
    · simp only [closed, if_neg (Nat.lt_irrefl _)]
  rw [opened, ended, CellMatrix.rowText, String.toList_append, String.toList_append,
    String.toList_intercalate, List.range_succ, List.map_append, List.map_append,
    List.map_append, List.map_singleton, List.map_singleton, List.map_singleton,
    Text.intercalate_concat, List.map_map, List.map_map, List.flatMap_map]
  simp only [List.append_assoc]
  rfl

theorem written_of :
    (of matrix).written = pure (String.join (matrix.lines.map CellMatrix.rowText)) := by
  let pieceAt (row col : Nat) : String := piece matrix.cols col (matrix.entry row col)
  have run : (of matrix).written = pure (String.join
      ((List.range (matrix.rows * matrix.cols)).map fun place =>
        pieceAt (place / matrix.cols) (place % matrix.cols))) := by
    rw [written, visit_of, String.join, List.foldl_map]
    apply foldlM_eq_pure
    intro place member text
    have positive : (of matrix).cols ≠ 0 :=
      Nat.ne_zero_of_lt (CellMatrix.position_of_place (List.mem_range.mp member)).2
    rw [remainder_eq_pure positive, pure_bind]
    rfl
  rw [run]
  refine congrArg pure (String.toList_inj.mp ?_)
  rw [String.toList_join, String.toList_join, List.flatMap_map, List.flatMap_map,
    flatMap_range_mul matrix.rows matrix.cols fun row col => (pieceAt row col).toList,
    CellMatrix.lines]
  split
  · rename_i noCols
    simp [noCols]
  · rename_i someCols
    obtain ⟨last, width⟩ := Nat.exists_eq_succ_of_ne_zero someCols
    rw [List.flatMap_map]
    apply List.flatMap_congr
    intro row member
    have line := pieces_eq_rowText (matrix.entry row) last
    rw [CellMatrix.row_eq_map_entry matrix (List.mem_range.mp member)]
    simp only [pieceAt, width]
    exact line

end Text

/-! ## Algebra -/

/-- Every place of the transposed store is written to, with the cell of its position. -/
theorem transpose_of : (of matrix).transpose = pure (of matrix.transpose) := by
  let turned : List (Cell K) := (empty matrix.cols matrix.rows : Store K).cells
  have length : turned.length = matrix.cols * matrix.rows := List.length_replicate
  have run : (of matrix).iterate
      (fun cells row col cell => write cells (col * (of matrix).rows + row) cell) turned =
        pure ((List.range turned.length).map fun place =>
          matrix.entry (place % matrix.rows) (place / matrix.rows)) := by
    rw [iterate_of]
    apply foldlM_write_eq_pure
    · intro place member
      have inside := CellMatrix.position_of_place (List.mem_range.mp member)
      rw [length]
      exact CellMatrix.place_lt inside.2 inside.1
    · intro place member
      have inside := CellMatrix.position_of_place (List.mem_range.mp member)
      rw [rows_of, div_of_place inside.1, mod_of_place inside.1]
    · intro place inside
      rw [length] at inside
      have source := CellMatrix.position_of_place inside
      refine .inl ⟨place % matrix.rows * matrix.cols + place / matrix.rows,
        List.mem_range.mpr (CellMatrix.place_lt source.2 source.1), ?_⟩
      rw [div_of_place source.1, mod_of_place source.1]
      exact Nat.div_add_mod' place matrix.rows
  rw [length] at run
  change ((of matrix).iterate _ turned >>= _) = _
  rw [run]
  rfl

/-- What is gathered outside of a row and a column are the cells of the minor. -/
theorem gathered_of {row col : Nat} (inside : matrix.Contains row col) :
    (of matrix).iterate
      (fun cells i j cell =>
        if i ≠ row ∧ j ≠ col then pure (cells ++ [cell]) else pure cells) [] =
      pure (matrix.minor row col).cells := by
  have gathered : ∀ cells : List (Cell K), ∀ place : Nat,
      (if place / matrix.cols ≠ row ∧ place % matrix.cols ≠ col then
        pure (cells ++ [matrix.entry (place / matrix.cols) (place % matrix.cols)])
      else pure cells : Checked (List (Cell K))) =
      pure (cells ++
        if place / matrix.cols ≠ row ∧ place % matrix.cols ≠ col then
          [matrix.entry (place / matrix.cols) (place % matrix.cols)]
        else []) := by
    intro cells place
    split
    · rfl
    · rw [List.append_nil]
  rw [iterate_of]
  simp only [gathered]
  rw [List.foldlM_pure, ← List.flatMap_eq_foldl,
    flatMap_range_outside inside.1 inside.2 matrix.entry]
  rfl

theorem minorAt_of (row col : Nat) :
    (of matrix).minorAt row col = ofOutcome ((matrix.minorAt row col).map of) := by
  unfold minorAt CellMatrix.minorAt
  split
  · rename_i inside
    have rows : oneLess (of matrix).rows = pure (matrix.rows - 1) :=
      oneLess_eq_pure (Nat.zero_lt_of_lt inside.1)
    have cols : oneLess (of matrix).cols = pure (matrix.cols - 1) :=
      oneLess_eq_pure (Nat.zero_lt_of_lt inside.2)
    rw [placeOf_of matrix inside, pure_bind, rows, pure_bind, cols, pure_bind,
      gathered_of matrix inside, pure_bind]
    exact certain_ofCells (matrix.minor row col) rfl rfl
  · rename_i outside
    rw [placeOf_of_not_contains matrix outside]
    rfl

theorem certain_minorAt {row col : Nat} (inside : matrix.Contains row col) :
    certain ((of matrix).minorAt row col) = pure (of (matrix.minor row col)) := by
  rw [minorAt_of, CellMatrix.minorAt, if_pos inside]
  rfl

variable [Add K] [Mul K] [Coefficient K]

theorem trace_of : (of matrix).trace = pure matrix.trace := by
  apply foldlM_eq_pure
  intro place member sum
  have inside : place < min matrix.rows matrix.cols := List.mem_range.mp member
  rw [read_of matrix ⟨by omega, by omega⟩, pure_bind]
  cases matrix.entry place place <;> rfl

theorem addScaled_of (other : CellMatrix K) (k : K) :
    (of matrix).addScaled (of other) k = ofOutcome ((matrix.addScaled other k).map of) := by
  unfold addScaled CellMatrix.addScaled
  by_cases same : matrix.rows = other.rows ∧ matrix.cols = other.cols
  · have cells : List.zipWith (CellMatrix.addCells k) matrix.cells other.cells =
        (CellMatrix.ofFn matrix.rows matrix.cols fun row col =>
          CellMatrix.addCells k (matrix.entry row col) (other.entry row col)).cells := by
      rw [CellMatrix.cells_eq_map_entry matrix, CellMatrix.cells_eq_map_entry other, ← same.1,
        ← same.2, List.zipWith_map, List.zipWith_self]
      rfl
    rw [if_pos same]
    exact (if_pos same).trans
      (certain_ofCells (CellMatrix.ofFn matrix.rows matrix.cols _) cells rfl)
  · rw [if_neg same]
    exact if_neg same

theorem multiplyPolynomial_of (q : Polynomial K) :
    (of matrix).multiplyPolynomial q = of (matrix.multiplyPolynomial q) := by
  unfold multiplyPolynomial CellMatrix.multiplyPolynomial
  split
  · exact empty_eq matrix.rows matrix.cols
  · rfl

theorem addProductAt_of
    {other : CellMatrix K}
    {row col step : Nat}
    (leftInside : matrix.Contains row step)
    (rightInside : other.Contains step col)
    (sum : Polynomial K) :
    (of matrix).addProductAt (of other) row col sum step =
      pure (CellMatrix.addProduct sum (matrix.entry row step, other.entry step col)) := by
  rw [addProductAt, read_of matrix leftInside, pure_bind, read_of other rightInside, pure_bind]
  unfold CellMatrix.addProduct
  cases matrix.entry row step with
  | none => rfl
  | some p => cases other.entry step col <;> rfl

/-- A place of a product is a row of the first and a column of the second matrix. -/
theorem productCell_of
    {other : CellMatrix K}
    (inner : matrix.cols = other.rows)
    (rules : Option (RuleSet K))
    {place : Nat}
    (inside : place < matrix.rows * other.cols) :
    (of matrix).productCell rules (of other) place =
      pure (some (simplify rules (CellMatrix.dotCells (matrix.row (place / other.cols))
        (other.column (place % other.cols)))).value) := by
  obtain ⟨rowInside, colInside⟩ := CellMatrix.position_of_place inside
  have positive : (of other).cols ≠ 0 := Nat.ne_zero_of_lt colInside
  have run := foldlM_eq_pure
    (fun step member sum =>
      addProductAt_of matrix ⟨rowInside, List.mem_range.mp member⟩
        ⟨inner ▸ List.mem_range.mp member, colInside⟩ sum) Polynomial.zero
  rw [productCell, quotient_eq_pure positive, remainder_eq_pure positive, pure_bind, pure_bind,
    CellMatrix.dotCells_eq_foldl, CellMatrix.row_eq_map_entry matrix rowInside,
    CellMatrix.column, ← inner, List.zip_map', List.foldl_map]
  exact congrArg (· >>= _) run

/-- Two matrices have a product exactly if their inner sizes agree. -/
theorem result_multiply (rules : Option (RuleSet K)) (other : CellMatrix K) :
    (matrix.multiply rules other).result =
      if matrix.cols = other.rows then
        .ok (.ofFn matrix.rows other.cols fun row col =>
          some (simplify rules (CellMatrix.dotCells (matrix.row row)
            (other.column col))).value)
      else .error (.innerSizesDiffer matrix.rows matrix.cols other.rows other.cols) := by
  unfold CellMatrix.multiply
  split <;> rfl

theorem multiply_of (rules : Option (RuleSet K)) (other : CellMatrix K) :
    (of matrix).multiply rules (of other) =
      ofOutcome ((matrix.multiply rules other).result.map of) := by
  rw [result_multiply]
  unfold multiply
  by_cases inner : matrix.cols = other.rows
  · have cells := mapM_eq_pure fun place member =>
      productCell_of matrix inner rules (List.mem_range.mp member)
    rw [if_pos inner]
    refine (if_pos inner).trans ((congrArg (· >>= _) cells).trans ?_)
    rw [pure_bind]
    exact certain_ofCells (CellMatrix.ofFn matrix.rows other.cols _) rfl rfl
  · rw [if_neg inner]
    exact if_neg inner

/-! ## Determinants -/

variable [Neg K]

/-- Expanding a square stays inside of it, and inside of its minors. -/
theorem expansion_of (rules : Option (RuleSet K)) :
    ∀ (size : Nat) (matrix : CellMatrix K), matrix.rows = size → matrix.cols = size →
      expansion rules size (of matrix) =
        pure (CellMatrix.expansion rules size matrix).value
  | 0, _, _, _ => rfl
  | 1, matrix, rows, cols => certain_get matrix ⟨by omega, by omega⟩
  | 2, matrix, rows, cols => by
      rw [expansion, certain_get matrix ⟨by omega, by omega⟩,
        certain_get matrix ⟨by omega, by omega⟩, certain_get matrix ⟨by omega, by omega⟩,
        certain_get matrix ⟨by omega, by omega⟩]
      rfl
  | size + 3, matrix, rows, cols => by
      rw [expansion, CellMatrix.expansion, Noted.value_foldlM]
      apply foldlM_eq_pure
      intro col member sum
      have inside : matrix.Contains 0 col := by
        constructor
        · omega
        · rw [cols]
          exact List.mem_range.mp member
      have smaller := expansion_of rules (size + 2) (matrix.minor 0 col)
        (by rw [CellMatrix.minor, CellMatrix.rows_ofFn]; omega)
        (by rw [CellMatrix.minor, CellMatrix.cols_ofFn]; omega)
      rw [certain_cell matrix inside, pure_bind]
      cases matrix.entry 0 col with
      | none => rfl
      | some cell =>
          dsimp only
          split
          · rfl
          · rw [certain_minorAt matrix inside, pure_bind, smaller]
            rfl

theorem determinant_of (matrix : CellMatrix K) (rules : Option (RuleSet K)) :
    (of matrix).determinant rules = ofOutcome (matrix.determinant rules).result := by
  rw [CellMatrix.result_determinant, CellMatrix.isSquare]
  unfold determinant
  by_cases square : matrix.rows = matrix.cols
  · rw [if_pos (beq_iff_eq.mpr square)]
    exact (if_pos square).trans (expansion_of rules matrix.rows matrix rfl square.symm)
  · rw [if_neg (mt beq_iff_eq.mp square)]
    exact if_neg square

end Store
end PolyMatrix
