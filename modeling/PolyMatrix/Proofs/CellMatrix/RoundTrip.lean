import PolyMatrix.Proofs.CellMatrix.Grid
import PolyMatrix.Proofs.CellMatrix.Header
import PolyMatrix.Proofs.Polynomial.RoundTrip

/-!
# Reading a matrix from its written form

The written cells contain no separators, so the rows are cut where they were ended
and the cells where they were joined.  A matrix without cells has no rows to be cut
and takes its shape from the header.
-/

namespace PolyMatrix

open Grammar
open Token (Written)

namespace CellMatrix

section Shape

variable {K : Type}

/-! ## The rows of a matrix -/

/-- Consecutive pieces of one length are the list they were taken from. -/
theorem flatten_map_take_drop
    {α : Type}
    {rows cols : Nat}
    {cells : List α}
    (count : cells.length = rows * cols) :
    ((List.range rows).map fun place =>
      (cells.drop (place * cols)).take cols).flatten = cells := by
  induction rows generalizing cells with
  | zero =>
      rw [Nat.zero_mul] at count
      rw [List.length_eq_zero_iff.mp count]
      rfl
  | succ rows inductionHypothesis =>
      have rest : (cells.drop cols).length = rows * cols := by
        rw [List.length_drop, count, Nat.succ_mul, Nat.add_sub_cancel]
      have behind : ((List.range rows).map fun place =>
          (cells.drop ((place + 1) * cols)).take cols) =
          (List.range rows).map fun place =>
            ((cells.drop cols).drop (place * cols)).take cols := by
        apply List.map_congr_left
        intro place member
        rw [List.drop_drop, Nat.succ_mul, Nat.add_comm]
      rw [List.range_succ_eq_map, List.map_cons, List.map_map, List.flatten_cons,
        Nat.zero_mul, List.drop_zero]
      exact (congrArg _ ((congrArg _ behind).trans (inductionHypothesis rest))).trans
        (List.take_append_drop cols cells)

/-- The cells of the lines are the cells of the matrix. -/
theorem flatten_lines (matrix : CellMatrix K) : matrix.lines.flatten = matrix.cells := by
  unfold lines
  split
  · rename_i noCols
    have count := matrix.length_cells
    rw [noCols, Nat.mul_zero] at count
    rw [List.length_eq_zero_iff.mp count]
    rfl
  · exact flatten_map_take_drop matrix.length_cells

/-- Every line fills the columns. -/
theorem length_of_mem_lines
    {matrix : CellMatrix K}
    {line : List (Cell K)}
    (member : line ∈ matrix.lines) : line.length = matrix.cols := by
  unfold lines at member
  split at member
  · cases member
  · obtain ⟨place, inside, rfl⟩ := List.mem_map.mp member
    rw [List.mem_range] at inside
    have room : place * matrix.cols + matrix.cols ≤ matrix.rows * matrix.cols := by
      rw [← Nat.succ_mul]
      exact Nat.mul_le_mul_right _ inside
    rw [row, List.length_take, List.length_drop, matrix.length_cells]
    omega

theorem length_lines
    {matrix : CellMatrix K}
    (someCols : matrix.cols ≠ 0) : matrix.lines.length = matrix.rows := by
  rw [lines, if_neg someCols, List.length_map, List.length_range]

/-- A matrix without cells has no lines, and only such a one. -/
theorem lines_eq_nil_iff {matrix : CellMatrix K} :
    matrix.lines = [] ↔ matrix.rows * matrix.cols = 0 := by
  by_cases noCols : matrix.cols = 0
  · simp only [lines, noCols, if_true, Nat.mul_zero]
  · rw [← List.length_eq_zero_iff, length_lines noCols, Nat.mul_eq_zero]
    exact ⟨.inl, fun none => none.resolve_right noCols⟩

theorem ne_nil_of_mem_lines
    {matrix : CellMatrix K}
    (someCells : matrix.rows * matrix.cols ≠ 0) : ∀ line ∈ matrix.lines, line ≠ [] := by
  intro line member
  rw [← List.length_pos_iff_ne_nil, length_of_mem_lines member]
  exact Nat.pos_of_ne_zero (right_ne_zero_of_mul someCells)

/-! ## Filling a matrix -/

/-- A matrix in which every cell holds its value, and no value a remark. -/
def filled (matrix : CellMatrix K) : CellMatrix K where
  rows := matrix.rows
  cols := matrix.cols
  cells := matrix.cells.map fun cell => some (cell.getD .zero).withoutNote
  label := matrix.label
  length_cells := by rw [List.length_map, matrix.length_cells]

/-- Every value has the summands that it had. -/
theorem terms_value_filled (matrix : CellMatrix K) (row col : Nat) :
    (matrix.filled.value row col).terms = (matrix.value row col).terms := by
  unfold value entry filled
  simp only [List.getD, List.getElem?_map]
  split
  · cases matrix.cells[row * matrix.cols + col]? with
    | none => rfl
    | some cell => rfl
  · rfl

theorem map_terms_get_filled (matrix : CellMatrix K) (row col : Nat) :
    (matrix.filled.get row col).map Polynomial.terms =
      (matrix.get row col).map Polynomial.terms := by
  unfold get
  by_cases inside : matrix.Contains row col
  · have filledInside : matrix.filled.Contains row col := inside
    rw [if_pos inside, if_pos filledInside]
    exact congrArg Except.ok (matrix.terms_value_filled row col)
  · have filledOutside : ¬matrix.filled.Contains row col := inside
    rw [if_neg inside, if_neg filledOutside]
    rfl

/-- A matrix without cells is filled as it is. -/
theorem withLabel?_empty
    {matrix : CellMatrix K}
    (noCells : matrix.rows * matrix.cols = 0) :
    (empty matrix.rows matrix.cols).withLabel? matrix.label = matrix.filled := by
  have count := matrix.length_cells
  rw [noCells] at count
  unfold empty ofFn withLabel? filled
  simp only [noCells, List.length_eq_zero_iff.mp count, List.range_zero, List.map_nil]

end Shape

variable {K : Type} [Coefficient K]

/-- The texts that a cell can be read from. -/
def Renders (cell : Cell K) (text : List Char) : Prop :=
  Written (Polynomial.sentence (cell.getD .zero).terms).tokens text

/-! ## Cells of a row -/

/-- The cells of a line, joined. -/
def joined (line : List (Cell K)) : List Char :=
  [',', ' ', ' '].intercalate (line.map fun cell => (cellText cell).toList)

/-- A line as it is written, up to its end. -/
def lineCharacters (line : List (Cell K)) : List Char :=
  ['\n', ' ', ' '] ++ joined line

theorem rowText_toList (line : List (Cell K)) :
    (rowText line).toList = lineCharacters line ++ [';'] := by
  rw [rowText, String.toList_append, String.toList_append, String.toList_intercalate,
    List.map_map]
  rfl

/-- The text of a cell is not blank. -/
theorem Renders.allBlank_eq_false
    {cell : Cell K}
    {text : List Char}
    (renders : Renders cell text) : Text.allBlank text = false :=
  Written.allBlank_eq_false renders (Sentence.tokens_ne_nil _)

/-- The texts that the cells of a line are cut into: the first one behind the layout of
the line, every other one behind two spaces. -/
def cellTexts : List (Cell K) → List (List Char)
  | [] => []
  | cell :: rest =>
      (['\n', ' ', ' '] ++ (cellText cell).toList).dropWhile Text.isLayout ::
        rest.map fun cell => [' ', ' '] ++ (cellText cell).toList

theorem renders_cellTexts
    {line : List (Cell K)}
    (rendered : ∀ cell ∈ line, Renders cell (cellText cell).toList) :
    List.Forall₂ Renders line (cellTexts line) := by
  cases line with
  | nil => exact .nil
  | cons cell rest =>
      rw [List.forall_mem_cons] at rendered
      apply List.Forall₂.cons
      · apply Written.dropWhile_isLayout
        exact .blank rfl (.blank rfl (.blank rfl rendered.1))
      · rw [List.forall₂_map_right_iff, List.forall₂_same]
        exact fun cell member => .blank rfl (.blank rfl (rendered.2 cell member))

/-- The cells of a line, each with the layout in front of it. -/
def lineTexts : List (Cell K) → List (List Char)
  | [] => []
  | cell :: rest =>
      (['\n', ' ', ' '] ++ (cellText cell).toList) ::
        rest.map fun cell => [' ', ' '] ++ (cellText cell).toList

theorem bareRow_lineTexts (line : List (Cell K)) : bareRow (lineTexts line) = cellTexts line := by
  cases line with
  | nil => rfl
  | cons cell rest => rfl

theorem map_bareRow_lineTexts (lines : List (List (Cell K))) :
    (lines.map lineTexts).map bareRow = lines.map cellTexts := by
  rw [List.map_map]
  exact List.map_congr_left fun line _ => bareRow_lineTexts line

theorem renders_lineTexts
    {line : List (Cell K)}
    (rendered : ∀ cell ∈ line, Renders cell (cellText cell).toList) :
    List.Forall₂ Renders line (lineTexts line) := by
  cases line with
  | nil => exact .nil
  | cons cell rest =>
      rw [List.forall_mem_cons] at rendered
      apply List.Forall₂.cons
      · exact .blank rfl (.blank rfl (.blank rfl rendered.1))
      · rw [List.forall₂_map_right_iff, List.forall₂_same]
        exact fun cell member => .blank rfl (.blank rfl (rendered.2 cell member))

/-- A line is joined from its texts with commas between them. -/
theorem intercalate_lineTexts
    {line : List (Cell K)}
    (nonempty : line ≠ []) : [','].intercalate (lineTexts line) = lineCharacters line := by
  cases line with
  | nil => exact absurd rfl nonempty
  | cons cell rest =>
      rw [lineTexts, lineCharacters, joined, List.map_cons, Text.intercalate_cons,
        Text.intercalate_cons, List.flatMap_map, List.flatMap_map, List.append_assoc]
      rfl

/-- The text of a cell is none of a row. -/
theorem Renders.isCellText
    {cell : Cell K}
    {text : List Char}
    (renders : Renders cell text) : IsCellText text where
  noComma member := (renders.solid ',' member).1 rfl
  noSemicolon member := (renders.solid ';' member).2 rfl
  notBlank := renders.allBlank_eq_false

theorem isCellText_of_renders
    {cells : List (Cell K)}
    {texts : List (List Char)}
    (renders : List.Forall₂ Renders cells texts) : ∀ text ∈ texts, IsCellText text := by
  induction renders with
  | nil => exact List.forall_mem_nil _
  | cons first later inductionHypothesis =>
      exact List.forall_mem_cons.mpr ⟨first.isCellText, inductionHypothesis⟩

/-! ## Lines of a matrix -/

/-- Written lines are laid out in rows. -/
theorem laidOut_lines
    {lines : List (List (Cell K))}
    (someLine : lines ≠ [])
    (nonempty : ∀ line ∈ lines, line ≠ [])
    (rendered : ∀ line ∈ lines, ∀ cell ∈ line, Renders cell (cellText cell).toList) :
    LaidOut (lines.flatMap fun line => lineCharacters line ++ [';']) (lines.map lineTexts) := by
  refine ⟨by rwa [ne_eq, List.map_eq_nil_iff], ?_, ?_, [], List.forall_mem_nil _, ?_⟩
  · rw [List.forall_mem_map]
    intro line member
    cases line with
    | nil => exact absurd rfl (nonempty [] member)
    | cons cell rest => exact List.cons_ne_nil _ _
  · rw [List.forall_mem_map]
    intro line member
    exact isCellText_of_renders (renders_lineTexts (rendered line member))
  · rw [List.append_nil, List.flatMap_map]
    exact List.flatMap_congr fun line member => by
      rw [intercalate_lineTexts (nonempty line member)]

/-- Written lines are cut into their cells, and nothing is left. -/
theorem grid_lines
    {lines : List (List (Cell K))}
    (someLine : lines ≠ [])
    (nonempty : ∀ line ∈ lines, line ≠ [])
    (rendered : ∀ line ∈ lines, ∀ cell ∈ line, Renders cell (cellText cell).toList)
    (source : String) :
    grid source (lines.flatMap fun line => lineCharacters line ++ [';']) =
      .ok (lines.map cellTexts) := by
  rw [(laidOut_lines someLine nonempty rendered).grid_eq source, map_bareRow_lineTexts]

/-! ## Matrices -/

@[simp] theorem length_cellTexts (line : List (Cell K)) :
    (cellTexts line).length = line.length := by
  cases line with
  | nil => rfl
  | cons cell rest => rw [cellTexts, List.length_cons, List.length_map, List.length_cons]

/-- Lines of one length pass for rows of that length. -/
theorem checkLengths_map
    {lines : List (List (Cell K))}
    (someLine : lines ≠ [])
    {cols : Nat}
    (lengths : ∀ line ∈ lines, line.length = cols) :
    checkLengths (lines.map cellTexts) = .ok cols := by
  have first : ((lines.map cellTexts).headD []).length = cols := by
    cases lines with
    | nil => exact absurd rfl someLine
    | cons line rest =>
        rw [List.map_cons, List.headD_cons, length_cellTexts]
        exact lengths line List.mem_cons_self
  have noneOther : (lines.map cellTexts).findIdx? (fun row => row.length != cols) =
      none := by
    rw [List.findIdx?_eq_none_iff, List.forall_mem_map]
    intro line member
    rw [length_cellTexts, lengths line member, bne_self_eq_false]
  unfold checkLengths
  simp only [first, noneOther]

/-- Written cells are read as they were written. -/
theorem parseCells_of_renders
    {cells : List (Cell ℚ)}
    (inEighths : ∀ cell ∈ cells, (cell.getD .zero).InEighths)
    {texts : List (List Char)}
    (renders : List.Forall₂ Renders cells texts) :
    parseCells (texts.map String.ofList) =
      pure (cells.map fun cell => some (cell.getD .zero).withoutNote) := by
  induction renders with
  | nil => rfl
  | @cons cell text cells texts first later inductionHypothesis =>
      rw [List.forall_mem_cons] at inEighths
      have source : Written (Polynomial.sentence (cell.getD .zero).terms).tokens
          (String.ofList text).toList := by
        rw [String.toList_ofList]
        exact first
      have read := Polynomial.parse_of_written inEighths.1.canonical inEighths.1.legible source
      have others := inductionHypothesis inEighths.2
      unfold parseCells at others ⊢
      rw [List.map_cons, List.mapM_cons, read, others]
      rfl

/-- What stands behind the header of a written matrix. -/
def body (matrix : CellMatrix K) : List Char :=
  matrix.lines.flatMap fun line => lineCharacters line ++ [';']

theorem text_toList (matrix : CellMatrix K) :
    matrix.text.toList = matrix.headerText.toList ++ matrix.body := by
  rw [text, String.toList_append, String.toList_join, List.flatMap_map, body]
  simp only [rowText_toList]

/-- Rows of written cells are read as the matrix that was written. -/
theorem ofGrid_lines
    {matrix : CellMatrix ℚ}
    (someCells : matrix.rows * matrix.cols ≠ 0)
    (inEighths : ∀ cell ∈ matrix.cells, (cell.getD .zero).InEighths)
    (rendered : ∀ line ∈ matrix.lines, ∀ cell ∈ line,
      Renders cell (cellText cell).toList) :
    ofGrid (matrix.lines.map cellTexts) =
      pure (matrix.filled.withLabel? none) := by
  have someCols : matrix.cols ≠ 0 := right_ne_zero_of_mul someCells
  have someLine : matrix.lines ≠ [] := mt lines_eq_nil_iff.mp someCells
  have renders : List.Forall₂ Renders matrix.cells
      (matrix.lines.map cellTexts).flatten := by
    rw [← matrix.flatten_lines]
    apply List.rel_flatten
    rw [List.forall₂_map_right_iff, List.forall₂_same]
    exact fun line member => renders_cellTexts (rendered line member)
  have count : (matrix.cells.map fun cell =>
      some (cell.getD Polynomial.zero).withoutNote).length =
        matrix.rows * matrix.cols := by
    rw [List.length_map, matrix.length_cells]
  rw [ofGrid, checkLengths_map someLine fun line member => length_of_mem_lines member,
    parseCells_of_renders inEighths renders, List.length_map, length_lines someCols]
  change Attempt.ofExcept (ofCells _ _ _) = _
  rw [ofCells, dif_pos count]
  rfl

/-- The cells of a matrix are written as their values. -/
theorem renders_of_inEighths
    {matrix : CellMatrix ℚ}
    (inEighths : ∀ cell ∈ matrix.cells, (cell.getD .zero).InEighths) :
    ∀ line ∈ matrix.lines, ∀ cell ∈ line, Renders cell (cellText cell).toList := by
  intro line isLine cell isCell
  have member : cell ∈ matrix.cells := by
    rw [← matrix.flatten_lines]
    exact List.mem_flatten_of_mem isLine isCell
  rw [cellText_eq]
  exact (inEighths cell member).written_text

/-- A written matrix is read as the matrix with its cells filled. -/
theorem parse_text_eq_filled
    {matrix : CellMatrix ℚ}
    (rowsFit : matrix.rows < Header.wordBound)
    (colsFit : matrix.cols < Header.wordBound)
    (labels : ∀ label ∈ matrix.label, IsLabel label)
    (inEighths : ∀ cell ∈ matrix.cells, (cell.getD .zero).InEighths) :
    (parse matrix.text : Attempt (CellMatrix ℚ)) = pure matrix.filled := by
  have rendered := renders_of_inEighths inEighths
  rw [parse, text_toList, Header.split?_headerText rowsFit colsFit labels]
  by_cases noCells : matrix.rows * matrix.cols = 0
  -- Nothing stands behind the header, and the shape is the one that it says.
  · have blank : Text.allBlank matrix.body = true := by
      rw [body, lines_eq_nil_iff.mpr noCells]
      rfl
    simp only [parseBody, noCells, blank, and_self, if_true, pure_bind,
      withLabel?_empty noCells]
  · have cut := grid_lines (mt lines_eq_nil_iff.mp noCells) (ne_nil_of_mem_lines noCells)
      rendered matrix.text
    simp only [parseBody, noCells, false_and, if_false, body, cut]
    change (ofGrid (matrix.lines.map cellTexts) >>= _) = _
    rw [ofGrid_lines noCells inEighths rendered, pure_bind]
    rfl

/-- A matrix whose cells have named symbols and multiples of an eighth in front of
them, of whatever shape that machine words can count and with whatever label a header
can hold, is read from its written form without notices: with its shape, its label,
and in every place the value that stands there, monomial by monomial and coefficient
by coefficient. -/
theorem parse_text_of_inEighths
    {matrix : CellMatrix ℚ}
    (rowsFit : matrix.rows < Header.wordBound)
    (colsFit : matrix.cols < Header.wordBound)
    (labels : ∀ label ∈ matrix.label, IsLabel label)
    (inEighths : ∀ cell ∈ matrix.cells, ∀ p ∈ cell, p.InEighths) :
    ∃ read : CellMatrix ℚ,
      (parse matrix.text).result = .ok read ∧
      (parse matrix.text : Attempt (CellMatrix ℚ)).notices = [] ∧
      read.rows = matrix.rows ∧ read.cols = matrix.cols ∧ read.label = matrix.label ∧
      ∀ row col, (read.get row col).map Polynomial.terms =
        (matrix.get row col).map Polynomial.terms := by
  have values : ∀ cell ∈ matrix.cells, (cell.getD .zero).InEighths := by
    intro cell member
    cases cell with
    | none => exact .zero
    | some p => exact inEighths _ member p rfl
  refine ⟨matrix.filled, ?_⟩
  rw [parse_text_eq_filled rowsFit colsFit labels values]
  exact ⟨rfl, rfl, rfl, rfl, rfl, matrix.map_terms_get_filled⟩

/-- A label with spaces, separators and an opening brace, a column, an empty cell and
a fraction. -/
theorem parse_text_of_inEighths_column :
    let matrix : CellMatrix ℚ :=
      { rows := 2
        cols := 1
        cells := [none, some (.ofTerms [(.ofSymbols ["x"], -1), (.unit, 1 / 8)])]
        label := some "a, b; \x7b2x2"
        length_cells := rfl }
    matrix.text = " Matrix\x7b2x1 a, b; \x7b2x2\x7d\n  0;\n  -x + 0.125;" ∧
      ∃ read : CellMatrix ℚ,
        (parse matrix.text).result = .ok read ∧
        (parse matrix.text : Attempt (CellMatrix ℚ)).notices = [] ∧
        read.rows = 2 ∧ read.cols = 1 ∧ read.label = some "a, b; \x7b2x2" ∧
        ∀ row col, (read.get row col).map Polynomial.terms =
          (matrix.get row col).map Polynomial.terms := by
  intro matrix
  refine ⟨by decide +kernel, parse_text_of_inEighths (by decide) (by decide) ?_ ?_⟩
  · rintro label ⟨⟩
    exact ⟨by decide, by decide, by decide⟩
  · have terms : (Polynomial.ofTerms [(.ofSymbols ["x"], -1), (.unit, 1 / 8)] :
        Polynomial ℚ).terms = [(.ofSymbols ["x"], -1), (.unit, 1 / 8)] := by
      decide +kernel
    rw [List.forall_mem_cons, List.forall_mem_singleton]
    refine ⟨fun p none => (nomatch none), ?_⟩
    rintro p ⟨⟩
    refine ⟨Polynomial.canonical_ofTerms _, ?_, ?_⟩
    · rw [terms]
      decide +kernel
    · rw [terms, List.forall_mem_cons, List.forall_mem_singleton]
      exact ⟨⟨-8, by norm_num⟩, ⟨1, by norm_num⟩⟩

end CellMatrix
end PolyMatrix
