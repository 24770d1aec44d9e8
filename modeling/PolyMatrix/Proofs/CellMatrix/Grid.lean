import Mathlib.Data.List.Forall2
import PolyMatrix.CellMatrix.Parse
import PolyMatrix.Proofs.Text.Cutting

/-!
# Texts laid out in rows

A text that is laid out in rows is cut at its semicolons and its commas, and the texts that
are cut into rows are those that are laid out in them.  Layout in front of a row belongs to
its first cell until it is cut off.
-/

namespace PolyMatrix
namespace CellMatrix

/-- The texts that a cell can have. -/
structure IsCellText (text : List Char) : Prop where
  noComma : ',' ∉ text
  noSemicolon : ';' ∉ text
  notBlank : Text.allBlank text = false

/-- A text consists of rows of cell texts with commas between the cells and a semicolon
behind each row, and of layout behind the last one. -/
structure LaidOut (text : List Char) (rows : List (List (List Char))) : Prop where
  someRow : rows ≠ []
  someCell : ∀ row ∈ rows, row ≠ []
  isCellText : ∀ row ∈ rows, ∀ cell ∈ row, IsCellText cell
  written : ∃ gap, (∀ character ∈ gap, Text.isLayout character = true) ∧
    text = (rows.flatMap fun row => [','].intercalate row ++ [';']) ++ gap

/-- The cells of a row without the layout in front of the row. -/
def bareRow (row : List (List Char)) : List (List Char) :=
  row.modifyHead (List.dropWhile Text.isLayout)

/-- Layout contains no end of a cell. -/
theorem not_mem_of_isLayout
    {gap : List Char}
    (layout : ∀ character ∈ gap, Text.isLayout character = true) : ',' ∉ gap ∧ ';' ∉ gap :=
  ⟨fun comma => absurd (layout ',' comma) (by decide),
    fun semicolon => absurd (layout ';' semicolon) (by decide)⟩

/-! ## Rows -/

/-- Layout in front of a row does not matter to whether its cells are blank. -/
theorem any_allBlank_bareRow (row : List (List Char)) :
    (bareRow row).any Text.allBlank = row.any Text.allBlank := by
  cases row with
  | nil => rfl
  | cons cell rest =>
      rw [bareRow, List.modifyHead_cons, List.any_cons, List.any_cons, Text.allBlank_dropWhile]

/-- A row text is read as its fields, if none of them is blank. -/
theorem rowTexts?_eq_some_iff {row : List Char} {cells : List (List Char)} :
    rowTexts? row = some cells ↔
      (∀ cell ∈ Text.fields (· == ',') row, Text.allBlank cell = false) ∧
        bareRow (Text.fields (· == ',') row) = cells := by
  have inside : ∀ character, Text.isLayout character = true → (character == ',') = false := by
    intro character layout
    rw [beq_eq_false_iff_ne]
    rintro rfl
    exact absurd layout (by decide)
  rw [rowTexts?, Text.fields_dropWhile inside, ← bareRow, any_allBlank_bareRow]
  cases blank : (Text.fields (· == ',') row).any Text.allBlank with
  | true =>
      obtain ⟨cell, member, isBlank⟩ := List.any_eq_true.mp blank
      refine iff_of_false nofun fun solid => ?_
      exact absurd (isBlank.symm.trans (solid.1 cell member)) Bool.true_eq_false.mp
  | false =>
      have solid : ∀ cell ∈ Text.fields (· == ',') row, Text.allBlank cell = false := by
        simpa using blank
      rw [if_neg Bool.false_ne_true, Option.some.injEq, and_iff_right solid]

/-- The row texts that are read, all of them. -/
theorem leadingRows_eq_iff {pieces : List (List Char)} {rows : List (List (List Char))} :
    leadingRows pieces = (rows, []) ↔
      List.Forall₂ (fun piece cells => rowTexts? piece = some cells) pieces rows := by
  induction pieces generalizing rows with
  | nil =>
      rw [List.forall₂_nil_left_iff, leadingRows, Prod.mk.injEq, and_iff_left rfl, eq_comm]
  | cons piece rest inductionHypothesis =>
      rw [List.forall₂_cons_left_iff, leadingRows]
      cases read : rowTexts? piece with
      | none =>
          refine iff_of_false (fun ended => ?_) nofun
          cases congrArg Prod.snd ended
      | some cells =>
          simp only [← inductionHypothesis]
          constructor
          · intro split
            obtain ⟨whole, none⟩ := Prod.mk.inj split
            exact ⟨cells, (leadingRows rest).1, rfl, Prod.ext rfl none, whole.symm⟩
          · rintro ⟨_, others, ⟨⟩, split, rfl⟩
            rw [split]

/-! ## Grids -/

/-- The part of a text that is not read is layout if all rows are read and layout follows
them. -/
theorem dropWhile_unread_eq_nil_iff {pieces : List (List Char)} {last : List Char} :
    ([';'].intercalate (pieces ++ [last])).dropWhile Text.isLayout = [] ↔
      pieces = [] ∧ ∀ character ∈ last, Text.isLayout character = true := by
  rw [List.dropWhile_eq_nil_iff, Text.intercalate_concat, List.forall_mem_append]
  refine and_congr_left fun _ => ⟨fun layout => ?_, ?_⟩
  · cases pieces with
    | nil => rfl
    | cons piece rest => exact absurd (layout ';' (by simp)) (by decide)
  · rintro rfl
    exact List.forall_mem_nil _

/-- All pieces but the last one are rows, at least one, and the last one is layout. -/
theorem grid_eq_ok_iff_of_fields
    {source : String}
    {body last : List Char}
    {pieces : List (List Char)}
    (cut : Text.fields (· == ';') body = pieces ++ [last])
    {rows : List (List (List Char))} :
    grid source body = .ok rows ↔
      rows ≠ [] ∧ leadingRows pieces = (rows, []) ∧
        ∀ character ∈ last, Text.isLayout character = true := by
  unfold grid
  simp only [cut, List.dropLast_concat, List.getLastD_concat]
  cases leadingRows pieces with
  | mk read unread =>
      dsimp only
      rw [Prod.mk.injEq]
      by_cases noRow : read = []
      · rw [noRow]
        refine iff_of_false nofun ?_
        rintro ⟨someRow, ⟨rfl, -⟩, -⟩
        exact someRow rfl
      · have someRow : read.isEmpty = false := List.isEmpty_eq_false_iff.mpr noRow
        rw [if_neg (by rw [someRow]; exact Bool.false_ne_true)]
        by_cases finished : ([';'].intercalate (unread ++ [last])).dropWhile Text.isLayout = []
        · rw [finished, if_pos List.isEmpty_nil, Except.ok.injEq]
          obtain ⟨rfl, layout⟩ := dropWhile_unread_eq_nil_iff.mp finished
          constructor
          · rintro rfl
            exact ⟨noRow, ⟨rfl, rfl⟩, layout⟩
          · rintro ⟨-, ⟨rfl, -⟩, -⟩
            rfl
        · rw [if_neg (by rwa [List.isEmpty_iff])]
          refine iff_of_false nofun ?_
          rintro ⟨-, ⟨-, rfl⟩, layout⟩
          exact finished (dropWhile_unread_eq_nil_iff.mpr ⟨rfl, layout⟩)

/-- A text in rows has a field for each of them, and one behind the last semicolon. -/
theorem fields_rows
    {rows : List (List (List Char))}
    (isCellText : ∀ row ∈ rows, ∀ cell ∈ row, IsCellText cell)
    {gap : List Char}
    (layout : ∀ character ∈ gap, Text.isLayout character = true) :
    Text.fields (· == ';') ((rows.flatMap fun row => [','].intercalate row ++ [';']) ++ gap) =
      rows.map [','].intercalate ++ [gap] := by
  have whole : ∀ piece ∈ rows.map [','].intercalate ++ [gap], ';' ∉ piece := by
    rw [List.forall_mem_append, List.forall_mem_map, List.forall_mem_singleton]
    refine ⟨fun row member inside => ?_, (not_mem_of_isLayout layout).2⟩
    have others : ∀ character ∈ [','].intercalate row, character ≠ ';' :=
      Text.forall_mem_intercalate (List.forall_mem_singleton.mpr (by decide))
        fun cell isCell character inCell =>
          ne_of_mem_of_not_mem inCell (isCellText row member cell isCell).noSemicolon
    exact others ';' inside rfl
  have cut := Text.fields_intercalate_of_not_mem (List.concat_ne_nil gap _) whole
  rwa [Text.intercalate_concat, List.flatMap_map] at cut

/-- A row has a field for each of its cells. -/
theorem fields_row
    {row : List (List Char)}
    (someCell : row ≠ [])
    (isCellText : ∀ cell ∈ row, IsCellText cell) :
    Text.fields (· == ',') ([','].intercalate row) = row :=
  Text.fields_intercalate_of_not_mem someCell fun cell isCell => (isCellText cell isCell).noComma

/-- A row is cut into its cells. -/
theorem rowTexts?_intercalate
    {row : List (List Char)}
    (someCell : row ≠ [])
    (isCellText : ∀ cell ∈ row, IsCellText cell) :
    rowTexts? ([','].intercalate row) = some (bareRow row) := by
  rw [rowTexts?_eq_some_iff, fields_row someCell isCellText]
  exact ⟨fun cell member => (isCellText cell member).notBlank, rfl⟩

/-- A text is cut into rows exactly where it is laid out in rows. -/
theorem grid_eq_ok_iff {source : String} {body : List Char} {cells : List (List (List Char))} :
    grid source body = .ok cells ↔ ∃ rows, LaidOut body rows ∧ rows.map bareRow = cells := by
  constructor
  · intro read
    let pieces := (Text.fields (· == ';') body).dropLast
    let last := (Text.fields (· == ';') body).getLast (Text.fields_ne_nil _ _)
    have cut : Text.fields (· == ';') body = pieces ++ [last] :=
      (List.dropLast_append_getLast _).symm
    obtain ⟨someRow, leading, layout⟩ := (grid_eq_ok_iff_of_fields cut).mp read
    have texts := leadingRows_eq_iff.mp leading
    simp only [rowTexts?_eq_some_iff] at texts
    obtain ⟨solid, bare⟩ := (List.forall₂_and_left _ _).mp texts
    have rows : (pieces.map (Text.fields (· == ','))).map bareRow = cells := by
      rw [List.map_map, ← List.forall₂_eq_eq_eq, List.forall₂_map_left_iff]
      exact bare
    refine ⟨pieces.map (Text.fields (· == ',')), ?_, rows⟩
    refine ⟨?_, ?_, ?_, last, layout, ?_⟩
    · rintro none
      rw [none] at rows
      exact someRow rows.symm
    · rw [List.forall_mem_map]
      exact fun piece _ => Text.fields_ne_nil _ piece
    · rw [List.forall_mem_map]
      intro piece isPiece cell isCell
      have isField : piece ∈ Text.fields (· == ';') body :=
        List.dropLast_subset _ isPiece
      refine ⟨fun comma => ?_, fun semicolon => ?_, solid piece isPiece cell isCell⟩
      · exact absurd (Text.mem_of_mem_fields isCell comma).2 (by decide)
      · have inPiece := (Text.mem_of_mem_fields isCell semicolon).1
        exact absurd (Text.mem_of_mem_fields isField inPiece).2 (by decide)
    · rw [← Text.intercalate_fields ';' body, cut, Text.intercalate_concat, List.flatMap_map]
      simp only [Text.intercalate_fields]
  · rintro ⟨rows, ⟨someRow, someCell, isCellText, gap, layout, rfl⟩, rfl⟩
    refine (grid_eq_ok_iff_of_fields (fields_rows isCellText layout)).mpr
      ⟨by rwa [ne_eq, List.map_eq_nil_iff], leadingRows_eq_iff.mpr ?_, layout⟩
    rw [List.forall₂_map_left_iff, List.forall₂_map_right_iff, List.forall₂_same]
    exact fun row member => rowTexts?_intercalate (someCell row member) (isCellText row member)

/-! ## Rows of a text -/

/-- Whether a character ends a cell. -/
def separates (character : Char) : Bool :=
  character == ',' || character == ';'

/-- A text has no ends of cells if it has neither commas nor semicolons. -/
theorem countP_separates_eq_zero_iff {text : List Char} :
    text.countP separates = 0 ↔ ',' ∉ text ∧ ';' ∉ text := by
  rw [List.countP_eq_zero]
  constructor
  · intro inside
    exact ⟨fun comma => inside ',' comma rfl, fun semicolon => inside ';' semicolon rfl⟩
  · rintro ⟨noComma, noSemicolon⟩ character member separator
    simp only [separates, Bool.or_eq_true, beq_iff_eq] at separator
    rcases separator with rfl | rfl
    · exact noComma member
    · exact noSemicolon member

/-- No cell text contains the end of a cell. -/
theorem IsCellText.countP_separates
    {text : List Char}
    (isCellText : IsCellText text) : text.countP separates = 0 :=
  countP_separates_eq_zero_iff.mpr ⟨isCellText.noComma, isCellText.noSemicolon⟩

/-- Every cell behind a comma has a separator, which is the comma. -/
theorem countP_behind_commas
    {cells : List (List Char)}
    (isCellText : ∀ cell ∈ cells, IsCellText cell) :
    (cells.flatMap fun cell => [','] ++ cell).countP separates = cells.length := by
  induction cells with
  | nil => rfl
  | cons cell rest inductionHypothesis =>
      rw [List.forall_mem_cons] at isCellText
      have comma : [','].countP separates = 1 := rfl
      rw [List.flatMap_cons, List.countP_append, List.countP_append, comma,
        isCellText.1.countP_separates, inductionHypothesis isCellText.2, List.length_cons]
      omega

/-- A row has a separator for each of its cells. -/
theorem countP_row
    {row : List (List Char)}
    (someCell : row ≠ [])
    (isCellText : ∀ cell ∈ row, IsCellText cell) :
    ([','].intercalate row ++ [';']).countP separates = row.length := by
  cases row with
  | nil => exact absurd rfl someCell
  | cons cell rest =>
      rw [List.forall_mem_cons] at isCellText
      have semicolon : [';'].countP separates = 1 := rfl
      rw [Text.intercalate_cons, List.countP_append, List.countP_append, semicolon,
        isCellText.1.countP_separates, countP_behind_commas isCellText.2, Nat.zero_add,
        List.length_cons]

namespace LaidOut

/-- A text in rows is cut into their cells, without the layout in front of each row. -/
theorem grid_eq
    {body : List Char}
    {rows : List (List (List Char))}
    (laidOut : LaidOut body rows)
    (source : String) : grid source body = .ok (rows.map bareRow) :=
  grid_eq_ok_iff.mpr ⟨rows, laidOut, rfl⟩

/-- A text is laid out in one way only. -/
theorem unique
    {text : List Char}
    {rows others : List (List (List Char))}
    (laidOut : LaidOut text rows)
    (otherwise : LaidOut text others) : rows = others := by
  have recut {rows : List (List (List Char))} (laidOut : LaidOut text rows) :
      ((Text.fields (· == ';') text).dropLast).map (Text.fields (· == ',')) = rows := by
    obtain ⟨gap, layout, rfl⟩ := laidOut.written
    rw [fields_rows laidOut.isCellText layout, List.dropLast_concat, List.map_map]
    exact (List.map_congr_left fun row member =>
      fields_row (laidOut.someCell row member) (laidOut.isCellText row member)).trans
        (List.map_id rows)
  exact (recut laidOut).symm.trans (recut otherwise)

/-- A text in rows has a separator for each of its cells. -/
theorem countP_separates
    {text : List Char}
    {rows : List (List (List Char))}
    (laidOut : LaidOut text rows) : text.countP separates = rows.flatten.length := by
  obtain ⟨-, someCell, isCellText, gap, layout, rfl⟩ := laidOut
  rw [List.countP_append, countP_separates_eq_zero_iff.mpr (not_mem_of_isLayout layout),
    Nat.add_zero]
  induction rows with
  | nil => rfl
  | cons row rest inductionHypothesis =>
      rw [List.forall_mem_cons] at someCell isCellText
      rw [List.flatMap_cons, List.countP_append, List.flatten_cons, List.length_append,
        countP_row someCell.1 isCellText.1, inductionHypothesis someCell.2 isCellText.2]

/-- A text in front of rows is read into their first cell. -/
theorem prepend
    {text front : List Char}
    {rows : List (List (List Char))}
    (laidOut : LaidOut text rows)
    (noComma : ',' ∉ front)
    (noSemicolon : ';' ∉ front) :
    LaidOut (front ++ text) (rows.modifyHead (List.modifyHead (front ++ ·))) := by
  obtain ⟨someRow, someCell, isCellText, gap, layout, rfl⟩ := laidOut
  cases rows with
  | nil => exact absurd rfl someRow
  | cons row rest =>
      rw [List.forall_mem_cons] at someCell isCellText
      cases row with
      | nil => exact absurd rfl someCell.1
      | cons cell others =>
          rw [List.forall_mem_cons] at isCellText
          obtain ⟨⟨first, behind⟩, later⟩ := isCellText
          have joined : IsCellText (front ++ cell) := by
            refine ⟨?_, ?_, ?_⟩
            · rw [List.mem_append, not_or]
              exact ⟨noComma, first.noComma⟩
            · rw [List.mem_append, not_or]
              exact ⟨noSemicolon, first.noSemicolon⟩
            · have solid := first.notBlank
              rw [Text.allBlank] at solid ⊢
              rw [List.all_append, solid, Bool.and_false]
          refine ⟨List.cons_ne_nil _ _, ?_, ?_, gap, layout, ?_⟩
          · exact List.forall_mem_cons.mpr ⟨List.cons_ne_nil _ _, someCell.2⟩
          · exact List.forall_mem_cons.mpr ⟨List.forall_mem_cons.mpr ⟨joined, behind⟩, later⟩
          · simp only [List.modifyHead_cons, List.flatMap_cons, Text.intercalate_cons,
              List.append_assoc]

end LaidOut

end CellMatrix
end PolyMatrix
