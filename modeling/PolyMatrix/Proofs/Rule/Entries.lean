import PolyMatrix.Proofs.Text.Cutting
import PolyMatrix.Rule.Document

/-!
# Entries of a document

Every document is lines with breaks between them, and every line a comment or pieces with
semicolons between them.  A piece holds an entry, with blanks around it, or is blank.  The
entries of a document are those of its pieces from first to last, and each document has one
list of them.
-/

namespace PolyMatrix
namespace RuleDocument

/-! ## Documents in parts -/

/-- What the parts of a text hold, from first to last, where the text is its parts with
separators between them. -/
def Parted
    (separator : Char)
    (Holds : List Char → List (List Char) → Prop)
    (text : List Char)
    (found : List (List Char)) : Prop :=
  ∃ parts : List (List Char × List (List Char)), parts ≠ [] ∧
    (∀ part ∈ parts, separator ∉ part.1 ∧ Holds part.1 part.2) ∧
      [separator].intercalate (parts.map Prod.fst) = text ∧ parts.flatMap Prod.snd = found

/-- A piece is blank and holds nothing, or holds the entry that has blanks around it and no
blank at either end. -/
inductive Piece : List Char → List (List Char) → Prop
  | blank {text : List Char}
      (blank : ∀ character ∈ text, Text.isBlank character = true) :
      Piece text []
  | entry {before entry behind : List Char}
      (blankBefore : ∀ character ∈ before, Text.isBlank character = true)
      (blankBehind : ∀ character ∈ behind, Text.isBlank character = true)
      (nonempty : entry ≠ [])
      (front : ∀ first ∈ entry.head?, Text.isBlank first = false)
      (back : ∀ last ∈ entry.getLast?, Text.isBlank last = false) :
      Piece (before ++ entry ++ behind) [entry]

/-- A line that is a comment: blanks, a mark and anything. -/
def IsComment (line : List Char) : Prop :=
  ∃ indent mark rest, line = indent ++ (mark ++ rest) ∧
    (∀ character ∈ indent, Text.isBlank character = true) ∧
      (mark = ['#'] ∨ mark = ['/', '/'])

/-- A comment holds nothing, and any other line what its pieces hold. -/
inductive LineHolds (line : List Char) : List (List Char) → Prop
  | comment (isComment : IsComment line) : LineHolds line []
  | pieces {found : List (List Char)}
      (noComment : ¬IsComment line)
      (parted : Parted ';' Piece line found) : LineHolds line found

/-- The entries of a document are what its lines hold. -/
def HasEntries (document : List Char) (found : List (List Char)) : Prop :=
  Parted '\n' LineHolds document found

/-! ## Pieces -/

/-- What is read from each field is what the text holds. -/
theorem parted_iff
    {Holds : List Char → List (List Char) → Prop}
    {read : List Char → List (List Char)}
    (holds_iff : ∀ part found, Holds part found ↔ read part = found)
    {separator : Char} {text : List Char} {found : List (List Char)} :
    Parted separator Holds text found ↔
      (Text.fields (· == separator) text).flatMap read = found := by
  constructor
  · rintro ⟨parts, nonempty, isPart, rfl, rfl⟩
    have someText : parts.map Prod.fst ≠ [] := List.map_eq_nil_iff.not.mpr nonempty
    have whole : ∀ part ∈ parts.map Prod.fst, separator ∉ part := by
      rw [List.forall_mem_map]
      exact fun part member => (isPart part member).1
    rw [Text.fields_intercalate_of_not_mem someText whole, List.flatMap_map]
    exact List.flatMap_congr fun part member => (holds_iff _ _).mp (isPart part member).2
  · rintro rfl
    refine ⟨(Text.fields (· == separator) text).map fun field => (field, read field),
      List.map_eq_nil_iff.not.mpr (Text.fields_ne_nil _ text), ?_, ?_, ?_⟩
    · rw [List.forall_mem_map]
      intro field isField
      refine ⟨fun inside => ?_, (holds_iff _ _).mpr rfl⟩
      exact absurd (Text.mem_of_mem_fields isField inside).2 (by simp)
    · rw [List.map_map]
      exact (congrArg _ (List.map_id _)).trans (Text.intercalate_fields separator text)
    · exact List.flatMap_map ..

theorem piece_iff (text : List Char) (found : List (List Char)) :
    Piece text found ↔ ([Text.trim text].filter fun entry => !entry.isEmpty) = found := by
  constructor
  · intro piece
    cases piece with
    | blank blank =>
        rw [Text.trim_eq_nil blank]
        rfl
    | @entry before entry behind blankBefore blankBehind nonempty front back =>
        have kept : Text.trim (before ++ entry ++ behind) = entry :=
          Text.trim_eq_iff.mpr
            ⟨before, behind, rfl, blankBefore, blankBehind, front, back⟩
        rw [kept, List.filter_cons_of_pos (by simpa using nonempty), List.filter_nil]
  · rintro rfl
    cases kept : Text.trim text with
    | nil =>
        obtain ⟨before, behind, rfl, blankBefore, blankBehind, -⟩ := Text.trim_eq_iff.mp kept
        rw [List.append_nil]
        exact .blank (List.forall_mem_append.mpr ⟨blankBefore, blankBehind⟩)
    | cons first rest =>
        obtain ⟨before, behind, rfl, blankBefore, blankBehind, front, back⟩ :=
          Text.trim_eq_iff.mp kept
        exact .entry blankBefore blankBehind (List.cons_ne_nil first rest) front back

/-! ## Comments -/

theorem isComment_iff {line : List Char} : isComment line = true ↔ IsComment line := by
  constructor
  · intro marked
    obtain ⟨before, behind, split, blankBefore, -⟩ := Text.exists_append_trim line
    rw [List.append_assoc] at split
    rw [isComment] at marked
    split at marked
    · rename_i rest trimmed
      exact ⟨before, ['#'], rest ++ behind, by rw [split, trimmed]; rfl, blankBefore, .inl rfl⟩
    · rename_i rest trimmed
      exact ⟨before, ['/', '/'], rest ++ behind, by rw [split, trimmed]; rfl, blankBefore,
        .inr rfl⟩
    · cases marked
  · rintro ⟨indent, mark, rest, rfl, blank, isMark⟩
    rw [isComment, Text.trim_append_left blank]
    rcases isMark with rfl | rfl
    · have kept : Text.trim (['#'] ++ rest) = '#' :: Text.trimRight rest :=
        Text.trim_append_cons rfl [] rest
      rw [kept]
      rfl
    · have first : Text.trim (['/', '/'] ++ rest) = '/' :: Text.trimRight ('/' :: rest) :=
        Text.trim_append_cons rfl [] ('/' :: rest)
      have second : Text.trimRight ('/' :: rest) = '/' :: Text.trimRight rest :=
        Text.trimRight_append_cons rfl [] rest
      rw [first, second]
      rfl

/-- A text without the characters of a mark is no comment. -/
theorem isComment_eq_false
    {line : List Char}
    (noMark : ∀ character ∈ line, character ≠ '#' ∧ character ≠ '/') :
    isComment line = false := by
  rw [← Bool.not_eq_true, isComment_iff]
  rintro ⟨indent, mark, rest, rfl, -, rfl | rfl⟩
  · exact (noMark '#' (by simp)).1 rfl
  · exact (noMark '/' (by simp)).2 rfl

/-! ## Lines -/

/-- The entries of a line. -/
def lineEntries (line : List Char) : List (List Char) :=
  if isComment line then []
  else ((Text.fields (· == ';') line).map Text.trim).filter fun entry => !entry.isEmpty

/-- The entries of a document are those of its lines. -/
theorem entries_eq_flatMap (document : List Char) :
    entries document = (Text.fields (· == '\n') document).flatMap lineEntries := by
  unfold entries
  induction Text.fields (· == '\n') document with
  | nil => rfl
  | cons line rest inductionHypothesis =>
      rw [List.flatMap_cons, ← inductionHypothesis, lineEntries]
      cases comment : isComment line with
      | true => simp [comment]
      | false => simp [comment]

theorem lineHolds_iff (line : List Char) (found : List (List Char)) :
    LineHolds line found ↔ lineEntries line = found := by
  have pieces : Parted ';' Piece line found ↔
      (((Text.fields (· == ';') line).map Text.trim).filter fun entry => !entry.isEmpty) =
        found := by
    rw [parted_iff piece_iff, List.map_eq_flatMap, List.filter_flatMap]
  rw [lineEntries]
  by_cases comment : isComment line = true
  · rw [if_pos comment]
    have isComment := isComment_iff.mp comment
    constructor
    · intro holds
      cases holds with
      | comment => rfl
      | pieces noComment => exact absurd isComment noComment
    · rintro rfl
      exact .comment isComment
  · rw [if_neg comment, ← pieces]
    have noComment := isComment_iff.not.mp comment
    constructor
    · intro holds
      cases holds with
      | comment isComment => exact absurd isComment noComment
      | pieces _ parted => exact parted
    · exact .pieces noComment

/-! ## Documents -/

/-- What is looked at in a document are its entries. -/
theorem hasEntries_iff {document : List Char} {found : List (List Char)} :
    HasEntries document found ↔ entries document = found := by
  rw [HasEntries, parted_iff lineHolds_iff, entries_eq_flatMap]

/-- A document has one list of entries. -/
theorem existsUnique_hasEntries (document : List Char) : ∃! found, HasEntries document found := by
  simp only [hasEntries_iff]
  exact existsUnique_eq'

end RuleDocument
end PolyMatrix
