import PolyMatrix.Proofs.CellMatrix.Acceptance
import PolyMatrix.Proofs.CellMatrix.RoundTrip

/-!
# Labels that spill

A header ends at its first closing brace, and a label is written as it is.  So a label
without a closing brace is read with the header and has no part in the cells, and of any
other label the part behind its first closing brace is read as the front of the first cell,
together with the brace that should have closed the header.
-/

namespace PolyMatrix
namespace CellMatrix

namespace Header

/-! ## Where a header ends -/

/-- What stands behind the first closing brace of a text, and another closing brace. -/
def spilled (text : List Char) : List Char :=
  match text.dropWhile (· != '\x7d') with
  | [] => []
  | _ :: behind => behind ++ ['\x7d']

/-- Nothing is spilled without a closing brace. -/
theorem spilled_eq_nil {text : List Char} (unclosed : '\x7d' ∉ text) : spilled text = [] := by
  have kept : ∀ character ∈ text, (character != '\x7d') = true := by
    intro character member
    rw [bne_iff_ne]
    rintro rfl
    exact unclosed member
  rw [spilled, List.dropWhile_eq_nil_iff.mpr kept]

/-- What stands in front of the first closing brace is not spilled. -/
theorem spilled_append
    {front : List Char}
    (unclosed : ∀ character ∈ front, (character != '\x7d') = true)
    (text : List Char) : spilled (front ++ text) = spilled text := by
  rw [spilled, List.dropWhile_append_of_pos unclosed, spilled]

/-- Up to the first closing brace a text is the header, and what it spills stands in front
of the rest. -/
theorem dropWhile_closed (text body : List Char) :
    (text ++ '\x7d' :: body).dropWhile (· != '\x7d') = '\x7d' :: (spilled text ++ body) := by
  induction text with
  | nil => rfl
  | cons first rest inductionHypothesis =>
      by_cases closes : first = '\x7d'
      · simp [spilled, closes]
      · have passes : (first != '\x7d') = true := bne_iff_ne.mpr closes
        have same : spilled (first :: rest) = spilled rest :=
          spilled_append (List.forall_mem_singleton.mpr passes) rest
        rw [same, ← inductionHypothesis]
        exact List.dropWhile_cons_of_pos passes

/-- A shape is read whatever stands behind the space that follows it. -/
theorem shape_ofContent
    {rows cols : Nat}
    {tail : List Char}
    (apart : ∀ first ∈ tail.head?, first = ' ') :
    (ofContent (shapeCharacters rows cols ++ tail)).shape =
      shape? (shapeCharacters rows cols) := by
  have nonempty : shapeCharacters rows cols ≠ [] :=
    List.append_ne_nil_of_left_ne_nil Nat.toDigits_ne_nil _
  obtain ⟨front, gap, trimmed, split⟩ := Text.exists_trim_append nonempty
    (fun character member => (solid_of_mem_shapeCharacters member).1) tail
  have word : ∀ character ∈ shapeCharacters rows cols, (character != ' ') = true :=
    fun character member => bne_iff_ne.mpr (solid_of_mem_shapeCharacters member).2.1
  have ends : front.takeWhile (· != ' ') = [] := by
    cases front with
    | nil => rfl
    | cons first rest =>
        rw [apart first (by rw [split]; rfl)]
        rfl
  rw [ofContent]
  dsimp only
  rw [trimmed, List.takeWhile_append_of_pos word, ends, List.append_nil]

/-- What of a label stands behind the header that is read. -/
def spill (label : Option String) : List Char :=
  (label.map fun text => spilled text.toList).getD []

/-- The shape of a written matrix is read if anything, and the spilled part of its label
stands in front of its rows. -/
theorem exists_split?_headerText {K : Type} (matrix : CellMatrix K) (body : List Char) :
    ∃ header, split? (matrix.headerText.toList ++ body) =
        some (header, spill matrix.label ++ body) ∧
      ∀ shape ∈ header.shape, shape = (matrix.rows, matrix.cols) := by
  have title : ∀ character ∈ " Matrix".toList,
      (character != '\x7b' && character != ',' && character != ';') = true :=
    List.all_eq_true.mp rfl
  have shapeUnclosed : ∀ character ∈ shapeCharacters matrix.rows matrix.cols,
      (character != '\x7d') = true :=
    fun character member => bne_iff_ne.mpr (solid_of_mem_shapeCharacters member).2.2
  let tail : List Char := (matrix.label.map fun text => ' ' :: text.toList).getD []
  have whole : content matrix.rows matrix.cols matrix.label =
      shapeCharacters matrix.rows matrix.cols ++ tail := by
    unfold tail
    cases matrix.label with
    | none => exact (List.append_nil _).symm
    | some label => rfl
  have spills : spilled (content matrix.rows matrix.cols matrix.label) = spill matrix.label := by
    rw [whole, spilled_append shapeUnclosed]
    unfold tail spill
    cases matrix.label with
    | none => rfl
    | some label => rfl
  have apart : ∀ first ∈ ((tail ++ '\x7d' :: body).takeWhile (· != '\x7d')).head?,
      first = ' ' := by
    unfold tail
    cases matrix.label with
    | none => exact nofun
    | some label =>
        rintro first ⟨⟩
        rfl
  let inside : List Char :=
    (content matrix.rows matrix.cols matrix.label ++ '\x7d' :: body).takeWhile (· != '\x7d')
  have read : inside = shapeCharacters matrix.rows matrix.cols ++
      (tail ++ '\x7d' :: body).takeWhile (· != '\x7d') := by
    unfold inside
    rw [whole, List.append_assoc, List.takeWhile_append_of_pos shapeUnclosed]
  refine ⟨ofContent inside, ?_, ?_⟩
  · rw [headerText_toList, List.append_assoc, List.cons_append, List.append_assoc,
      List.singleton_append, split?, Text.dropWhile_append_stop title rfl]
    simp only [dropWhile_closed, spills]
    rfl
  · intro shape found
    rw [read, shape_ofContent apart] at found
    exact eq_of_mem_shape?_shapeCharacters found

end Header

/-! ## Rows behind a header -/

section Rows

variable {K : Type} [Add K] [Neg K] [Mul K] [Coefficient K]

/-- A written matrix with cells is read from what stands behind its header. -/
theorem exists_parse_text
    {matrix : CellMatrix K}
    (someCells : matrix.rows * matrix.cols ≠ 0) :
    ∃ label, (parse matrix.text : Attempt (CellMatrix K)) =
      ofRows matrix.text (Header.spill matrix.label ++ matrix.body) >>= fun read =>
        pure (read.withLabel? label) := by
  obtain ⟨header, split, shaped⟩ := Header.exists_split?_headerText matrix matrix.body
  refine ⟨header.label, ?_⟩
  rw [parse, text_toList, split]
  dsimp only
  rw [parseBody]
  cases shape : header.shape with
  | none => rfl
  | some found =>
      obtain rfl := shaped found shape
      simp only [someCells, false_and, if_false]
      rfl

/-- A written matrix with cells is read as the one that shows what stands behind its header,
under some label. -/
theorem exists_result_parse_text
    {matrix : CellMatrix K}
    (someCells : matrix.rows * matrix.cols ≠ 0) :
    ∃ label, ∀ read : CellMatrix K, (parse matrix.text).result = .ok read ↔
      ∃ shown, (∃ rows, LaidOut (Header.spill matrix.label ++ matrix.body) rows ∧
        Shows rows shown) ∧ shown.withLabel? label = read := by
  obtain ⟨label, same⟩ := exists_parse_text someCells
  refine ⟨label, fun read => ?_⟩
  rw [same, Attempt.result_bind_eq_ok_iff]
  simp only [result_ofRows_eq_ok_iff, Attempt.result_pure, Except.ok.injEq]

/-- A text is read as one cell. -/
theorem ReadsCell.unique
    {text : List Char}
    {cell other : Cell K}
    (reads : ReadsCell text cell)
    (otherwise : ReadsCell text other) : cell = other := by
  obtain ⟨p, rfl, parsed⟩ := reads
  obtain ⟨q, rfl, again⟩ := otherwise
  cases parsed.symm.trans again
  rfl

theorem rightUnique_readsCell :
    Relator.RightUnique (ReadsCell : List Char → Cell K → Prop) :=
  fun _ _ _ reads otherwise => reads.unique otherwise

/-- A matrix shows as many texts as it has cells. -/
theorem Shows.length_flatten
    {rows : List (List (List Char))}
    {matrix : CellMatrix K}
    (shows : Shows rows matrix) : rows.flatten.length = matrix.rows * matrix.cols := by
  rw [CellMatrix.length_flatten shows.colCount, shows.rowCount]

/-- With another text in its place, the first cell is another one, and all others stay. -/
theorem Shows.replace_first_iff
    {first other : List Char}
    {row : List (List Char)}
    {more : List (List (List Char))}
    {matrix replaced : CellMatrix K}
    (shows : Shows ((first :: row) :: more) matrix) :
    Shows ((other :: row) :: more) replaced ↔
      replaced.rows = matrix.rows ∧ replaced.cols = matrix.cols ∧ replaced.label = none ∧
        ∃ cell, ReadsCell other cell ∧ replaced.cells = cell :: matrix.cells.tail := by
  obtain ⟨rowCount, colCount, -, reads⟩ := shows_iff.mp shows
  rw [List.forall_mem_cons] at colCount
  rw [List.flatten_cons, List.cons_append, List.forall₂_cons_left_iff] at reads
  obtain ⟨cell, rest, -, reads, cells⟩ := reads
  rw [shows_iff, rowCount, ← colCount.1, cells, List.tail_cons, List.forall_mem_cons,
    List.flatten_cons, List.cons_append, List.forall₂_cons_left_iff]
  constructor
  · rintro ⟨replacedRows, ⟨replacedCols, -⟩, unlabelled, cell, others, readsFirst, readsRest,
      replacedCells⟩
    have same : others = rest := rightUnique_readsCell.forall₂ readsRest reads
    exact ⟨replacedRows, replacedCols.symm, unlabelled, cell, readsFirst, same ▸ replacedCells⟩
  · rintro ⟨replacedRows, replacedCols, unlabelled, cell, readsFirst, replacedCells⟩
    refine ⟨replacedRows, ⟨replacedCols.symm, fun line member => ?_⟩, unlabelled, cell, rest,
      readsFirst, reads, replacedCells⟩
    rw [replacedCols, colCount.2 line member, colCount.1]

end Rows

/-! ## Comparing what is read -/

/-- A cell counts as equal to itself. -/
theorem cellsAgree_self (cell : Cell ℚ) : cellsAgree cell cell = true := by
  cases cell with
  | none => rfl
  | some p =>
      have within (k : ℚ) : Coefficient.isWithin (Coefficient.tolerance : ℚ) k k = true := by
        change (decide (-rationalTolerance ≤ k - k) && decide (k - k ≤ rationalTolerance)) = true
        rw [sub_self]
        decide +kernel
      exact List.all_eq_true.mpr fun monomial _ => within _

theorem all_cellsAgree_self (cells : List (Cell ℚ)) :
    (cells.zip cells).all (fun pair => cellsAgree pair.1 pair.2) = true := by
  induction cells with
  | nil => rfl
  | cons cell rest inductionHypothesis =>
      rw [List.zip_cons_cons, List.all_cons, cellsAgree_self, inductionHypothesis,
        Bool.and_true]

/-- Matrices of one shape that differ in their first cells count as equal if those do. -/
theorem agrees_iff_first
    {left right : CellMatrix ℚ}
    (rows : left.rows = right.rows)
    (cols : left.cols = right.cols)
    {cell other : Cell ℚ}
    {rest : List (Cell ℚ)}
    (cells : left.cells = cell :: rest)
    (others : right.cells = other :: rest) :
    left.agrees right = true ↔ cellsAgree cell other = true := by
  rw [agrees, rows, cols, cells, others, List.zip_cons_cons, List.all_cons,
    all_cellsAgree_self rest]
  simp

/-- Two texts are read as matrices that count as equal. -/
def ReadsAlike (text other : String) : Prop :=
  ∃ read plain : CellMatrix ℚ, (parse text).result = .ok read ∧
    (parse other).result = .ok plain ∧ read.agrees plain = true

/-- The text of the first cell of a written matrix, with the layout in front of it. -/
def firstText (matrix : CellMatrix ℚ) : List Char :=
  ['\n', ' ', ' '] ++ (matrix.value 0 0).text.toList

section Written

variable {matrix : CellMatrix ℚ}

/-- A matrix with cells has a first one. -/
theorem exists_lines_eq_cons (someCells : matrix.rows * matrix.cols ≠ 0) :
    ∃ cell row more, matrix.lines = (cell :: row) :: more ∧
      matrix.cells = cell :: (row ++ more.flatten) ∧ cell.getD .zero = matrix.value 0 0 := by
  have nonempty := ne_nil_of_mem_lines someCells
  have flat := matrix.flatten_lines
  cases lines : matrix.lines with
  | nil => exact absurd (lines_eq_nil_iff.mp lines) someCells
  | cons line more =>
      rw [lines] at nonempty flat
      cases line with
      | nil => exact absurd rfl (nonempty [] List.mem_cons_self)
      | cons cell row =>
          refine ⟨cell, row, more, rfl, flat.symm, ?_⟩
          have someCol := Nat.pos_of_ne_zero (right_ne_zero_of_mul someCells)
          rw [value, entry, if_pos someCol, Nat.zero_mul, ← flat]
          rfl

/-- What is written behind the header of a matrix shows the matrix with its cells filled. -/
theorem shows_lineTexts
    (someCells : matrix.rows * matrix.cols ≠ 0)
    (inEighths : ∀ cell ∈ matrix.cells, (cell.getD .zero).InEighths) :
    LaidOut matrix.body (matrix.lines.map lineTexts) ∧
      Shows (matrix.lines.map lineTexts) (matrix.filled.withLabel? none) := by
  have someLine := mt lines_eq_nil_iff.mp someCells
  have rendered := renders_of_inEighths inEighths
  constructor
  · exact laidOut_lines someLine (ne_nil_of_mem_lines someCells) rendered
  · have read := ofGrid_lines someCells inEighths rendered
    rw [← result_ofGrid_eq_ok_iff (by rwa [ne_eq, List.map_eq_nil_iff]),
      map_bareRow_lineTexts, read]
    rfl

/-- A labelled matrix is read like an unlabelled one if the matrix that shows what is spilled
by the label and stands behind the header counts as equal to the filled one. -/
theorem readsAlike_iff
    (someCells : matrix.rows * matrix.cols ≠ 0)
    (inEighths : ∀ cell ∈ matrix.cells, (cell.getD .zero).InEighths)
    (label : String) :
    ReadsAlike (matrix.withLabel label).text (matrix.withLabel? none).text ↔
      ∃ shown : CellMatrix ℚ,
        (∃ rows, LaidOut (Header.spilled label.toList ++ matrix.body) rows ∧
          Shows rows shown) ∧ shown.agrees matrix.filled = true := by
  obtain ⟨laidOut, shows⟩ := shows_lineTexts someCells inEighths
  have someLabelled : (matrix.withLabel label).rows * (matrix.withLabel label).cols ≠ 0 := someCells
  have somePlain : (matrix.withLabel? none).rows * (matrix.withLabel? none).cols ≠ 0 := someCells
  obtain ⟨kept, labelled⟩ := exists_result_parse_text someLabelled
  obtain ⟨nothing, unlabelled⟩ := exists_result_parse_text somePlain
  have plain := (unlabelled _).mpr ⟨matrix.filled.withLabel? none, ⟨_, laidOut, shows⟩, rfl⟩
  constructor
  · rintro ⟨read, other, reads, others, agree⟩
    obtain ⟨shown, spilled, rfl⟩ := (labelled read).mp reads
    obtain rfl := Except.ok.inj (others.symm.trans plain)
    exact ⟨shown, spilled, agree⟩
  · rintro ⟨shown, spilled, agree⟩
    exact ⟨_, _, (labelled _).mpr ⟨shown, spilled, rfl⟩, plain, agree⟩

/-- What is spilled into rows of which as many cells are read has no separators. -/
theorem no_separators_of_laidOut
    {text front : List Char}
    {rows others : List (List (List Char))}
    (laidOut : LaidOut text rows)
    (spilled : LaidOut (front ++ text) others)
    (count : others.flatten.length = rows.flatten.length) : ',' ∉ front ∧ ';' ∉ front := by
  have separators := spilled.countP_separates
  rw [List.countP_append, laidOut.countP_separates, count] at separators
  exact countP_separates_eq_zero_iff.mp (Nat.add_eq_right.mp separators)

/-- The first cell of the filled matrix is the first value, and its text is read as that. -/
theorem exists_first
    (someCells : matrix.rows * matrix.cols ≠ 0) :
    ∃ row more rest, matrix.lines.map lineTexts = (firstText matrix :: row) :: more ∧
      matrix.filled.cells = some (matrix.value 0 0).withoutNote :: rest := by
  obtain ⟨cell, row, more, lines, cells, first⟩ := exists_lines_eq_cons someCells
  refine ⟨row.map fun cell => [' ', ' '] ++ (cellText cell).toList, more.map lineTexts,
    (row ++ more.flatten).map fun cell => some (cell.getD .zero).withoutNote, ?_, ?_⟩
  · rw [lines, List.map_cons, lineTexts, firstText, cellText_eq, first]
  · have filledCells : matrix.filled.cells =
        matrix.cells.map fun cell => some (cell.getD .zero).withoutNote := rfl
    rw [filledCells, cells, List.map_cons, first]

end Written

/-- The first cell counts as equal to what it was when it is read behind what a label spills,
and no other cell comes with it. -/
structure FirstCellStays (matrix : CellMatrix ℚ) (label : String) : Prop where
  noComma : ',' ∉ Header.spilled label.toList
  noSemicolon : ';' ∉ Header.spilled label.toList
  /-- The first cell is read, and its value is the one that was written. -/
  reads : ∃ p, (Polynomial.parse
      (String.ofList (Header.spilled label.toList ++ firstText matrix))).result = .ok p ∧
    p.agrees (matrix.value 0 0) = true

/-- What a label does to the cells that are read back: nothing if it has no closing brace,
and in general nothing but what becomes of the first cell. -/
structure LabelEffect (matrix : CellMatrix ℚ) (label : String) : Prop where
  /-- Labels without a closing brace. -/
  unclosed : '\x7d' ∉ label.toList →
    ReadsAlike (matrix.withLabel label).text (matrix.withLabel? none).text
  /-- All labels. -/
  alike_iff : ReadsAlike (matrix.withLabel label).text (matrix.withLabel? none).text ↔
    FirstCellStays matrix label

section Effect

variable {matrix : CellMatrix ℚ}

theorem alike_iff_firstCellStays
    (someCells : matrix.rows * matrix.cols ≠ 0)
    (inEighths : ∀ cell ∈ matrix.cells, (cell.getD .zero).InEighths)
    (label : String) :
    ReadsAlike (matrix.withLabel label).text (matrix.withLabel? none).text ↔
      FirstCellStays matrix label := by
  obtain ⟨laidOut, shows⟩ := shows_lineTexts someCells inEighths
  obtain ⟨row, more, rest, rows, cells⟩ := exists_first someCells
  rw [readsAlike_iff someCells inEighths label]
  rw [rows] at laidOut shows
  have tail : (matrix.filled.withLabel? none).cells.tail = rest := congrArg List.tail cells
  constructor
  · rintro ⟨shown, ⟨others, spilled, showsOthers⟩, agree⟩
    obtain ⟨sameRows, sameCols, -⟩ := (agrees_iff _ _).mp agree
    have count : others.flatten.length = ((firstText matrix :: row) :: more).flatten.length := by
      rw [showsOthers.length_flatten, shows.length_flatten]
      exact congrArg₂ (· * ·) sameRows sameCols
    have separators := no_separators_of_laidOut laidOut spilled count
    obtain rfl := spilled.unique (laidOut.prepend separators.1 separators.2)
    obtain ⟨-, -, -, cell, ⟨p, rfl, parsed⟩, shownCells⟩ :=
      shows.replace_first_iff.mp showsOthers
    rw [tail] at shownCells
    exact ⟨separators.1, separators.2, p, parsed,
      (agrees_iff_first sameRows sameCols shownCells cells).mp agree⟩
  · rintro ⟨noComma, noSemicolon, p, parsed, agree⟩
    have spilled := laidOut.prepend noComma noSemicolon
    have count := matrix.filled.length_cells
    rw [cells, List.length_cons] at count
    let shown : CellMatrix ℚ := ⟨matrix.rows, matrix.cols, some p :: rest, none, count⟩
    have showsSpilled : Shows _ shown := shows.replace_first_iff.mpr
      ⟨rfl, rfl, rfl, some p, ⟨p, rfl, parsed⟩, by rw [tail]⟩
    have sameRows : shown.rows = matrix.filled.rows := rfl
    exact ⟨shown, ⟨_, spilled, showsSpilled⟩,
      (agrees_iff_first sameRows rfl rfl cells).mpr agree⟩

/-- The text of the first cell is read as the first value. -/
theorem readsCell_firstText
    (someCells : matrix.rows * matrix.cols ≠ 0)
    (inEighths : ∀ cell ∈ matrix.cells, (cell.getD .zero).InEighths) :
    ReadsCell (firstText matrix) (some (matrix.value 0 0).withoutNote) := by
  obtain ⟨-, shows⟩ := shows_lineTexts someCells inEighths
  obtain ⟨row, more, rest, rows, cells⟩ := exists_first someCells
  obtain ⟨-, -, -, reads⟩ := shows_iff.mp shows
  have filledCells : (matrix.filled.withLabel? none).cells = _ := cells
  rw [rows, filledCells, List.flatten_cons, List.cons_append, List.forall₂_cons] at reads
  exact reads.1

/-- A label has no effect on what is read, or the effect of what it spills. -/
theorem label_effect
    (someCells : matrix.rows * matrix.cols ≠ 0)
    (inEighths : ∀ cell ∈ matrix.cells, ∀ p ∈ cell, p.InEighths)
    (label : String) : LabelEffect matrix label := by
  have values : ∀ cell ∈ matrix.cells, (cell.getD .zero).InEighths := by
    intro cell member
    cases cell with
    | none => exact .zero
    | some p => exact inEighths _ member p rfl
  have alike := alike_iff_firstCellStays someCells values label
  refine ⟨fun unclosed => alike.mpr ?_, alike⟩
  obtain ⟨p, same, parsed⟩ := readsCell_firstText someCells values
  obtain rfl := Option.some.inj same
  have nothing := Header.spilled_eq_nil unclosed
  refine ⟨?_, ?_, (matrix.value 0 0).withoutNote, ?_,
    cellsAgree_self (some (matrix.value 0 0))⟩
  all_goals rw [nothing]
  · exact List.not_mem_nil
  · exact List.not_mem_nil
  · exact parsed

end Effect

/-- The closing brace of the header is skipped in front of the first cell, if nothing else is
spilled with it. -/
theorem label_effect_brace :
    let x : Polynomial ℚ := .ofTerms [(.ofSymbols ["x"], 1)]
    let matrix : CellMatrix ℚ := ⟨1, 1, [some x], none, rfl⟩
    matrix.rows * matrix.cols ≠ 0 ∧ x.InEighths ∧
      (matrix.withLabel "a\x7d").text = " Matrix\x7b1x1 a\x7d\x7d\n  x;" ∧
      ReadsAlike (matrix.withLabel "a\x7d").text (matrix.withLabel? none).text := by
  intro x matrix
  have inEighths : x.InEighths := by decide +kernel
  have cells : ∀ cell ∈ matrix.cells, ∀ p ∈ cell, p.InEighths := by
    rw [List.forall_mem_singleton]
    rintro p ⟨⟩
    exact inEighths
  have someCells : matrix.rows * matrix.cols ≠ 0 := by decide
  refine ⟨someCells, inEighths, by decide +kernel,
    (label_effect someCells cells "a\x7d").alike_iff.mpr ⟨by decide, by decide, ?_⟩⟩
  have compared : ((Polynomial.parse (String.ofList
      (Header.spilled "a\x7d".toList ++ firstText matrix))).result.map fun p =>
        p.agrees (matrix.value 0 0)) = .ok true := by
    decide +kernel
  cases read : (Polynomial.parse (String.ofList
      (Header.spilled "a\x7d".toList ++ firstText matrix)) : Attempt (Polynomial ℚ)).result with
  | error fault =>
      rw [read] at compared
      cases compared
  | ok p =>
      rw [read] at compared
      exact ⟨p, rfl, Except.ok.inj compared⟩

/-- A symbol behind a closing brace becomes a factor of the first cell. -/
theorem label_times_first :
    let matrix : CellMatrix ℚ := ⟨1, 1, [some (.ofTerms [(.ofSymbols ["x"], 1)])], none, rfl⟩
    (matrix.withLabel "\x7dy").text = " Matrix\x7b1x1 \x7dy\x7d\n  x;" ∧
      ¬ReadsAlike (matrix.withLabel "\x7dy").text (matrix.withLabel? none).text := by
  intro matrix
  refine ⟨by decide +kernel, ?_⟩
  rintro ⟨read, plain, reads, plainReads, agree⟩
  have compared : ((parse (matrix.withLabel "\x7dy").text).result >>= fun read : CellMatrix ℚ =>
      (parse (matrix.withLabel? none).text).result.map fun plain =>
        read.agrees plain) = .ok false := by
    decide +kernel
  rw [reads, plainReads] at compared
  exact absurd ((Except.ok.inj compared).symm.trans agree) Bool.false_ne_true

end CellMatrix
end PolyMatrix
