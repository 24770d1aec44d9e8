import PolyMatrix.Coefficient.Exact
import PolyMatrix.Proofs.CellMatrix.Grid
import PolyMatrix.Proofs.CellMatrix.Positions
import PolyMatrix.Proofs.Expression.Sources

/-!
# Matrices from texts without a header

A text without an opening brace is read as a matrix if it is laid out in rows of one length
and each of its cell texts is read as a polynomial; the matrix then has these polynomials
in the places of their texts.  Otherwise the layout is at fault, or the first cell text
that is not read.
-/

namespace PolyMatrix
namespace CellMatrix

/-- Rows of one length. -/
def Uniform (rows : List (List (List Char))) : Prop :=
  ∃ cols, ∀ row ∈ rows, row.length = cols

/-- A matrix is made of as many cells as its shape has. -/
theorem ofCells_eq_ok_iff
    {K : Type}
    {rows cols : Nat}
    {cells : List (Cell K)}
    {matrix : CellMatrix K} :
    ofCells rows cols cells = .ok matrix ↔
      matrix.rows = rows ∧ matrix.cols = cols ∧ matrix.cells = cells ∧ matrix.label = none := by
  unfold ofCells
  split
  · constructor
    · rintro ⟨⟩
      exact ⟨rfl, rfl, rfl, rfl⟩
    · rintro ⟨isRows, isCols, isCells, isLabel⟩
      exact congrArg Except.ok
        (eq_of_cells_eq isRows.symm isCols.symm isCells.symm isLabel.symm)
  · rename_i differ
    constructor
    · rintro ⟨⟩
    · rintro ⟨rfl, rfl, rfl, -⟩
      exact absurd matrix.length_cells differ

section Shown

variable {K : Type} [Add K] [Neg K] [Mul K] [Coefficient K]

/-- A cell holds the polynomial that its text is read as. -/
def ReadsCell (text : List Char) (cell : Cell K) : Prop :=
  ∃ p, cell = some p ∧ (Polynomial.parse (String.ofList text)).result = .ok p

/-- A matrix has the shape of the rows of texts, and in every place the polynomial that the
text in that place is read as. -/
structure Shows (rows : List (List (List Char))) (matrix : CellMatrix K) : Prop where
  rowCount : matrix.rows = rows.length
  colCount : ∀ row ∈ rows, row.length = matrix.cols
  unlabelled : matrix.label = none
  readsCell : ∀ {row col : Nat} {text : List Char},
    text ∈ rows[row]?.bind (·[col]?) → ReadsCell text (matrix.entry row col)

/-! ## Places -/

/-- Lists correspond if they have one length and correspond in every place. -/
theorem forall₂_iff_getElem?
    {α β : Type}
    {relation : α → β → Prop}
    {left : List α} {right : List β} :
    List.Forall₂ relation left right ↔
      left.length = right.length ∧
        ∀ (place : Nat) (item : α) (other : β),
          left[place]? = some item → right[place]? = some other → relation item other := by
  rw [List.forall₂_iff_get]
  simp only [List.getElem?_eq_some_iff, List.get_eq_getElem]
  refine and_congr_right fun _ => ⟨?_, fun related place inLeft inRight => ?_⟩
  · rintro related place _ _ ⟨inLeft, rfl⟩ ⟨inRight, rfl⟩
    exact related place inLeft inRight
  · exact related place _ _ ⟨inLeft, rfl⟩ ⟨inRight, rfl⟩

/-- The cells of a matrix are read from the texts in their places. -/
theorem forall₂_readsCell_iff
    {rows : List (List (List Char))}
    {matrix : CellMatrix K}
    (rowCount : matrix.rows = rows.length)
    (colCount : ∀ row ∈ rows, row.length = matrix.cols) :
    List.Forall₂ ReadsCell rows.flatten matrix.cells ↔
      ∀ {row col : Nat} {text : List Char},
        text ∈ rows[row]?.bind (·[col]?) → ReadsCell text (matrix.entry row col) := by
  have counted : rows.flatten.length = matrix.cells.length := by
    rw [length_flatten colCount, matrix.length_cells, rowCount]
  rw [forall₂_iff_getElem?, and_iff_right counted]
  constructor
  · intro reads row col text shown
    obtain ⟨line, isLine, isText⟩ := Option.bind_eq_some_iff.mp shown
    have inside : col < matrix.cols := by
      rw [← colCount line (List.mem_of_getElem? isLine)]
      exact (List.getElem?_eq_some_iff.mp isText).1
    have place := (getElem?_flatten colCount inside row).trans shown
    have inCells : row * matrix.cols + col < matrix.cells.length :=
      counted ▸ (List.getElem?_eq_some_iff.mp place).1
    have found := List.getElem?_eq_getElem inCells
    rw [entry, if_pos inside, List.getD_eq_getElem?_getD, found]
    exact reads _ _ _ place found
  · intro shown place text cell isText isCell
    have inCells : place < matrix.cells.length := (List.getElem?_eq_some_iff.mp isCell).1
    have someCol : 0 < matrix.cols := by
      rw [matrix.length_cells] at inCells
      exact Nat.pos_of_mul_pos_left (Nat.zero_lt_of_lt inCells)
    have inside := Nat.mod_lt place someCol
    have split : place / matrix.cols * matrix.cols + place % matrix.cols = place := by
      rw [Nat.mul_comm]
      exact Nat.div_add_mod place matrix.cols
    have shownText := getElem?_flatten colCount inside (place / matrix.cols)
    rw [split, isText] at shownText
    have reads := shown shownText.symm
    rw [entry, if_pos inside, split, List.getD_eq_getElem?_getD, isCell] at reads
    exact reads

/-- A matrix shows rows if it has their shape and, in reading order, their cells. -/
theorem shows_iff {rows : List (List (List Char))} {matrix : CellMatrix K} :
    Shows rows matrix ↔
      matrix.rows = rows.length ∧ (∀ row ∈ rows, row.length = matrix.cols) ∧
        matrix.label = none ∧ List.Forall₂ ReadsCell rows.flatten matrix.cells := by
  constructor
  · rintro ⟨rowCount, colCount, unlabelled, shows⟩
    exact ⟨rowCount, colCount, unlabelled, (forall₂_readsCell_iff rowCount colCount).mpr shows⟩
  · rintro ⟨rowCount, colCount, unlabelled, reads⟩
    exact ⟨rowCount, colCount, unlabelled, (forall₂_readsCell_iff rowCount colCount).mp reads⟩

/-! ## Layout in front of rows -/

/-- Layout in front of a text does not matter to what its cell holds. -/
theorem readsCell_dropWhile_iff {text : List Char} {cell : Cell K} :
    ReadsCell (text.dropWhile Text.isLayout) cell ↔ ReadsCell text cell := by
  simp only [ReadsCell, Polynomial.result_parse_dropWhile]

/-- The cells of a row have the texts of the row, some of them without the layout in front
of them. -/
theorem forall₂_flatten_bareRow (rows : List (List (List Char))) :
    List.Forall₂ (fun text bare => ∀ cell : Cell K, ReadsCell bare cell ↔ ReadsCell text cell)
      rows.flatten (rows.map bareRow).flatten := by
  apply List.rel_flatten
  rw [List.forall₂_map_right_iff, List.forall₂_same]
  intro row _
  cases row with
  | nil => exact .nil
  | cons text rest =>
      exact .cons (fun _ => readsCell_dropWhile_iff) (List.forall₂_same.mpr fun _ _ _ => .rfl)

/-- Layout in front of rows does not matter to what their cells hold. -/
theorem forall₂_readsCell_bareRow_iff
    {rows : List (List (List Char))}
    {cells : List (Cell K)} :
    List.Forall₂ ReadsCell (rows.map bareRow).flatten cells ↔
      List.Forall₂ ReadsCell rows.flatten cells := by
  have same := forall₂_flatten_bareRow (K := K) rows
  generalize rows.flatten = texts at same
  generalize (rows.map bareRow).flatten = bare at same
  induction same generalizing cells with
  | nil => rfl
  | cons first later inductionHypothesis =>
      rw [List.forall₂_cons_left_iff, List.forall₂_cons_left_iff]
      simp only [first, inductionHypothesis]

/-! ## Reading the cells of a grid -/

/-- Where cells are read, every text is. -/
theorem exists_readsCell_of_mem
    {texts : List (List Char)} {cells : List (Cell K)}
    (reads : List.Forall₂ ReadsCell texts cells) :
    ∀ text ∈ texts, ∃ cell : Cell K, ReadsCell text cell := by
  induction reads with
  | nil => exact List.forall_mem_nil _
  | cons first later inductionHypothesis =>
      exact List.forall_mem_cons.mpr ⟨⟨_, first⟩, inductionHypothesis⟩

/-- A cell is read from its text. -/
theorem result_readCell_eq_ok_iff {text : List Char} {cell : Cell K} :
    (Polynomial.parse (String.ofList text) >>= fun p => pure (some p)).result = .ok cell ↔
      ReadsCell text cell := by
  rw [Attempt.result_bind_eq_ok_iff]
  constructor
  · rintro ⟨p, parsed, ⟨⟩⟩
    exact ⟨p, rfl, parsed⟩
  · rintro ⟨p, rfl, parsed⟩
    exact ⟨p, parsed, rfl⟩

/-- Cells are read one by one. -/
theorem result_parseCells_eq_ok_iff {texts : List (List Char)} {cells : List (Cell K)} :
    (parseCells (texts.map String.ofList)).result = .ok cells ↔
      List.Forall₂ ReadsCell texts cells := by
  rw [parseCells, List.mapM_map, Attempt.result_mapM_eq_ok_iff]
  simp only [Function.comp, result_readCell_eq_ok_iff]

/-- The first cell that is not read is the fault. -/
theorem result_parseCells_eq_error_iff {texts : List (List Char)} {fault : Fault} :
    (parseCells (texts.map String.ofList) : Attempt (List (Cell K))).result = .error fault ↔
      ∃ front bad back, texts = front ++ bad :: back ∧
        (∀ text ∈ front, ∃ cell : Cell K, ReadsCell text cell) ∧
        (Polynomial.parse (String.ofList bad) : Attempt (Polynomial K)).result =
          .error fault := by
  rw [parseCells, List.mapM_map, Attempt.result_mapM_eq_error_iff]
  simp only [Function.comp, Attempt.result_bind_pure_eq_error_iff, result_readCell_eq_ok_iff]

/-! ## Lengths of rows -/

/-- Rows pass if they have the length of the first one. -/
theorem checkLengths_eq_ok_iff {rows : List (List (List Char))} {cols : Nat} :
    checkLengths rows = .ok cols ↔
      (rows.headD []).length = cols ∧ ∀ row ∈ rows, row.length = cols := by
  unfold checkLengths
  dsimp only
  cases other : rows.findIdx? fun row => row.length != (rows.headD []).length with
  | some bad =>
      refine iff_of_false nofun ?_
      rintro ⟨rfl, uniform⟩
      have none := List.findIdx?_eq_none_iff.mpr
        fun row member => bne_eq_false_iff_eq.mpr (uniform row member)
      cases other.symm.trans none
  | none =>
      constructor
      · rintro ⟨⟩
        exact ⟨rfl, fun row member =>
          bne_eq_false_iff_eq.mp (List.findIdx?_eq_none_iff.mp other row member)⟩
      · rintro ⟨rfl, -⟩
        rfl

/-- Rows that do not pass are a fault of the layout. -/
theorem kind_of_checkLengths
    {rows : List (List (List Char))}
    {fault : Fault}
    (fails : checkLengths rows = .error fault) : fault.kind = .format := by
  unfold checkLengths at fails
  dsimp only at fails
  split at fails
  · cases fails
    rfl
  · cases fails

/-- Rows of one length pass. -/
theorem checkLengths_of_uniform
    {rows : List (List (List Char))}
    (someRow : rows ≠ [])
    {cols : Nat}
    (uniform : ∀ row ∈ rows, row.length = cols) : checkLengths rows = .ok cols := by
  refine checkLengths_eq_ok_iff.mpr ⟨?_, uniform⟩
  cases rows with
  | nil => exact absurd rfl someRow
  | cons first rest => exact uniform first List.mem_cons_self

theorem length_bareRow (row : List (List Char)) : (bareRow row).length = row.length :=
  List.length_modifyHead

/-- Rows have one length with the layout in front of them or without it. -/
theorem uniform_bareRow_iff {rows : List (List (List Char))} {cols : Nat} :
    (∀ row ∈ rows.map bareRow, row.length = cols) ↔ ∀ row ∈ rows, row.length = cols := by
  simp only [List.forall_mem_map, length_bareRow]

/-- The matrix of rows of texts is the one that shows them. -/
theorem result_ofGrid_eq_ok_iff
    {rows : List (List (List Char))}
    (someRow : rows ≠ [])
    {matrix : CellMatrix K} :
    (ofGrid (rows.map bareRow)).result = .ok matrix ↔ Shows rows matrix := by
  simp only [ofGrid, Attempt.result_bind_eq_ok_iff, Attempt.result_ofExcept,
    result_parseCells_eq_ok_iff, forall₂_readsCell_bareRow_iff, ofCells_eq_ok_iff,
    List.length_map, shows_iff]
  constructor
  · rintro ⟨cols, lengths, cells, reads, rowCount, rfl, rfl, unlabelled⟩
    have colCount := uniform_bareRow_iff.mp (checkLengths_eq_ok_iff.mp lengths).2
    exact ⟨rowCount, colCount, unlabelled, reads⟩
  · rintro ⟨rowCount, colCount, unlabelled, reads⟩
    refine ⟨matrix.cols, checkLengths_of_uniform ?_ (uniform_bareRow_iff.mpr colCount),
      matrix.cells, reads, rowCount, rfl, rfl, unlabelled⟩
    rwa [ne_eq, List.map_eq_nil_iff]

/-! ## Texts without a header -/

/-- A text without an opening brace has no header. -/
theorem split?_eq_none {text : List Char} (noBrace : '\x7b' ∉ text) :
    Header.split? text = none := by
  unfold Header.split?
  split
  · rename_i rest dropped
    have member := (List.dropWhile_sublist _).mem (dropped ▸ List.mem_cons_self)
    exact absurd member noBrace
  · rfl

/-- The matrix of the rows of a text. -/
def ofRows (source : String) (body : List Char) : Attempt (CellMatrix K) := do
  let rows ← Attempt.ofExcept (grid source body)
  ofGrid rows

/-- A text without a header is read from its rows. -/
theorem parse_eq_ofRows {source : String} (noBrace : '\x7b' ∉ source.toList) :
    (parse source : Attempt (CellMatrix K)) =
      ofRows source source.toList >>= fun matrix => pure (matrix.withLabel? none) := by
  rw [parse, split?_eq_none noBrace]
  rfl

/-- A text without a header has the fault of its layout or that of its rows. -/
theorem result_parse_eq_error_iff
    {source : String} {fault : Fault}
    (noBrace : '\x7b' ∉ source.toList) :
    (parse source : Attempt (CellMatrix K)).result = .error fault ↔
      grid source source.toList = .error fault ∨
        ∃ rows, grid source source.toList = .ok rows ∧
          (ofGrid rows : Attempt (CellMatrix K)).result = .error fault := by
  rw [parse_eq_ofRows noBrace, Attempt.result_bind_pure_eq_error_iff, ofRows,
    Attempt.result_bind_eq_error_iff, Attempt.result_ofExcept]

/-- The matrix of a text that is laid out in rows is the one that shows them. -/
theorem result_ofRows_eq_ok_iff
    {source : String}
    {body : List Char}
    {matrix : CellMatrix K} :
    (ofRows source body).result = .ok matrix ↔
      ∃ rows, LaidOut body rows ∧ Shows rows matrix := by
  simp only [ofRows, Attempt.result_bind_eq_ok_iff, Attempt.result_ofExcept, grid_eq_ok_iff]
  constructor
  · rintro ⟨_, ⟨rows, laidOut, rfl⟩, reads⟩
    exact ⟨rows, laidOut, (result_ofGrid_eq_ok_iff laidOut.someRow).mp reads⟩
  · rintro ⟨rows, laidOut, shows⟩
    exact ⟨_, ⟨rows, laidOut, rfl⟩, (result_ofGrid_eq_ok_iff laidOut.someRow).mpr shows⟩

/-- A text that is not laid out in rows is a fault of the layout. -/
theorem kind_of_grid
    {source : String} {body : List Char} {fault : Fault}
    (fails : grid source body = .error fault) : fault.kind = .format := by
  unfold grid at fails
  dsimp only at fails
  split at fails
  · cases fails
    rfl
  · split at fails
    · cases fails
    · cases fails
      rfl

end Shown

/-- A text is read as a matrix if it is laid out in rows of one length whose cell texts are
all read, and as the matrix that shows them. -/
structure ReadsRows (K : Type) [Add K] [Neg K] [Mul K] [Coefficient K] (source : String) :
    Prop where
  /-- The texts that are read, and what they are read as. -/
  accepted : ∀ matrix : CellMatrix K, (parse source).result = .ok matrix ↔
    ∃ rows, LaidOut source.toList rows ∧ Shows rows matrix
  /-- The fault of a text that is not laid out in rows. -/
  misplaced : (¬∃ rows, LaidOut source.toList rows) →
    ∃ fault, (parse source : Attempt (CellMatrix K)).result = .error fault ∧
      fault.kind = .format
  /-- The fault of rows that differ in length. -/
  ragged : ∀ rows, LaidOut source.toList rows → ¬Uniform rows →
    ∃ fault, (parse source : Attempt (CellMatrix K)).result = .error fault ∧
      fault.kind = .format
  /-- The fault of rows of one length with a cell text that is not read, which is that of
  the first such text; the layout in front of a row is not quoted. -/
  rejected : ∀ rows, LaidOut source.toList rows → Uniform rows →
    (∃ text ∈ rows.flatten, ∀ cell : Cell K, ¬ReadsCell text cell) →
    ∃ front bad back fault, (rows.map bareRow).flatten = front ++ bad :: back ∧
      (∀ text ∈ front, ∃ cell : Cell K, ReadsCell text cell) ∧
      (Polynomial.parse (String.ofList bad) : Attempt (Polynomial K)).result = .error fault ∧
      (parse source : Attempt (CellMatrix K)).result = .error fault

section Read

variable {K : Type} [Add K] [Neg K] [Mul K] [Coefficient K]

theorem reads_rows {source : String} (noBrace : '\x7b' ∉ source.toList) :
    ReadsRows K source where
  accepted matrix := by
    have unlabelled {read : CellMatrix K} {rows : List (List (List Char))}
        (shows : Shows rows read) : read.withLabel? none = read :=
      eq_of_cells_eq rfl rfl rfl shows.unlabelled.symm
    rw [parse_eq_ofRows noBrace, Attempt.result_bind_eq_ok_iff]
    simp only [result_ofRows_eq_ok_iff, Attempt.result_pure, Except.ok.injEq]
    constructor
    · rintro ⟨read, ⟨rows, laidOut, shows⟩, rfl⟩
      rw [unlabelled shows]
      exact ⟨rows, laidOut, shows⟩
    · rintro ⟨rows, laidOut, shows⟩
      exact ⟨matrix, ⟨rows, laidOut, shows⟩, unlabelled shows⟩
  misplaced noRows := by
    cases read : grid source source.toList with
    | ok cells =>
        obtain ⟨rows, laidOut, -⟩ := grid_eq_ok_iff.mp read
        exact absurd ⟨rows, laidOut⟩ noRows
    | error fault =>
        exact ⟨fault, (result_parse_eq_error_iff noBrace).mpr (.inl read), kind_of_grid read⟩
  ragged rows laidOut differ := by
    have read := laidOut.grid_eq source
    cases lengths : checkLengths (rows.map bareRow) with
    | ok cols =>
        have uniform := uniform_bareRow_iff.mp (checkLengths_eq_ok_iff.mp lengths).2
        exact absurd ⟨cols, uniform⟩ differ
    | error fault =>
        refine ⟨fault, (result_parse_eq_error_iff noBrace).mpr (.inr ⟨_, read, ?_⟩),
          kind_of_checkLengths lengths⟩
        rw [ofGrid, Attempt.result_bind_eq_error_iff]
        exact .inl lengths
  rejected rows laidOut uniform unread := by
    obtain ⟨cols, uniform⟩ := uniform
    have read := laidOut.grid_eq source
    have lengths : checkLengths (rows.map bareRow) = .ok cols := by
      refine checkLengths_of_uniform ?_ (uniform_bareRow_iff.mpr uniform)
      rw [ne_eq, List.map_eq_nil_iff]
      exact laidOut.someRow
    cases outcome : (parseCells ((rows.map bareRow).flatten.map String.ofList) :
        Attempt (List (Cell K))).result with
    | ok cells =>
        have shown := forall₂_readsCell_bareRow_iff.mp (result_parseCells_eq_ok_iff.mp outcome)
        obtain ⟨text, member, unread⟩ := unread
        obtain ⟨cell, reads⟩ := exists_readsCell_of_mem shown text member
        exact absurd reads (unread cell)
    | error fault =>
        obtain ⟨front, bad, back, split, earlier, fails⟩ :=
          result_parseCells_eq_error_iff.mp outcome
        refine ⟨front, bad, back, fault, split, earlier, fails,
          (result_parse_eq_error_iff noBrace).mpr (.inr ⟨_, read, ?_⟩)⟩
        rw [ofGrid, Attempt.result_bind_eq_error_iff]
        refine .inr ⟨cols, lengths, ?_⟩
        rw [Attempt.result_bind_eq_error_iff]
        exact .inl outcome

end Read

/-- Two rows, the second one on a line of its own, and a tab behind them. -/
theorem reads_rows_lines :
    let source := "x, 2y;\n 0, z + 1;\t"
    let rows := [["x".toList, " 2y".toList], ["\n 0".toList, " z + 1".toList]]
    '\x7b' ∉ source.toList ∧ LaidOut source.toList rows ∧
      ∃ matrix : CellMatrix ℚ, (parse source).result = .ok matrix ∧ Shows rows matrix := by
  intro source rows
  have noBrace : '\x7b' ∉ source.toList := by decide
  have laidOut : LaidOut source.toList rows := by
    refine ⟨List.cons_ne_nil _ _, by decide, ?_, ['\t'], List.forall_mem_singleton.mpr rfl,
      by decide⟩
    intro row isRow cell isCell
    have inRows : cell ∈ rows.flatten := List.mem_flatten_of_mem isRow isCell
    have solid : ∀ text ∈ rows.flatten,
        ',' ∉ text ∧ ';' ∉ text ∧ Text.allBlank text = false := by decide
    exact ⟨(solid cell inRows).1, (solid cell inRows).2.1, (solid cell inRows).2.2⟩
  have parsed {text : List Char}
      (accepted : (Polynomial.parse (String.ofList text) :
        Attempt (Polynomial ℚ)).result.isOk = true) :
      ∃ p, (Polynomial.parse (String.ofList text) : Attempt (Polynomial ℚ)).result = .ok p := by
    cases outcome : (Polynomial.parse (String.ofList text) : Attempt (Polynomial ℚ)).result with
    | error fault =>
        rw [outcome] at accepted
        cases accepted
    | ok p => exact ⟨p, rfl⟩
  obtain ⟨x, isX⟩ := @parsed "x".toList (by decide +kernel)
  obtain ⟨y, isY⟩ := @parsed " 2y".toList (by decide +kernel)
  obtain ⟨zero, isZero⟩ := @parsed "\n 0".toList (by decide +kernel)
  obtain ⟨z, isZ⟩ := @parsed " z + 1".toList (by decide +kernel)
  let matrix : CellMatrix ℚ := ⟨2, 2, [some x, some y, some zero, some z], none, rfl⟩
  have colCount : ∀ row ∈ rows, row.length = 2 := by decide
  have reads : List.Forall₂ ReadsCell rows.flatten matrix.cells :=
    .cons ⟨x, rfl, isX⟩ (.cons ⟨y, rfl, isY⟩
      (.cons ⟨zero, rfl, isZero⟩ (.cons ⟨z, rfl, isZ⟩ .nil)))
  have shows : Shows rows matrix :=
    shows_iff.mpr ⟨rfl, colCount, rfl, reads⟩
  exact ⟨noBrace, laidOut, matrix,
    ((reads_rows noBrace).accepted matrix).mpr ⟨rows, laidOut, shows⟩, shows⟩

end CellMatrix
end PolyMatrix
