import Mathlib.Data.List.TakeWhile
import PolyMatrix.CellMatrix.Parse
import PolyMatrix.CellMatrix.Text
import PolyMatrix.Proofs.Expression.Layout
import PolyMatrix.Proofs.Text.Cutting

/-!
# Reading a header from its written form

A shape is written in digits, so the first space of a header stands in front of its
label and the first closing brace behind it, whatever else the label contains.
-/

namespace PolyMatrix
namespace CellMatrix

/-- The labels that a header can hold: texts without a closing brace and without
blanks at their ends, and not the empty one. -/
structure IsLabel (label : String) : Prop where
  nonempty : label.toList ≠ []
  trimmed : Text.trim label.toList = label.toList
  unclosed : '\x7d' ∉ label.toList

namespace Header

/-- The number of a size is read from its digits, if it is a machine word. -/
theorem size?_toDigits (size : Nat) :
    size? (Nat.toDigits 10 size) = if size < wordBound then some size else none := by
  have digits : ∀ digit ∈ Nat.toDigits 10 size, digit.isDigit = true :=
    fun digit member => Nat.isDigit_of_mem_toDigits (by decide) (by decide) member
  have allDigits : (Nat.toDigits 10 size).all Char.isDigit = true :=
    List.all_eq_true.mpr digits
  have nonempty : (Nat.toDigits 10 size).isEmpty = false :=
    List.isEmpty_eq_false_iff.mpr Nat.toDigits_ne_nil
  have noSign : ∀ rest, Nat.toDigits 10 size ≠ '+' :: rest := by
    intro rest signed
    rw [signed, List.forall_mem_cons] at digits
    exact absurd digits.1 (by decide)
  unfold size?
  split
  · rename_i rest signed
    exact absurd signed (noSign rest)
  · simp only [nonempty, allDigits, Nat.ofDigitChars_ten_toDigits, Bool.not_true,
      Bool.or_self, Bool.false_eq_true, if_false]

/-- A shape as it is written. -/
def shapeCharacters (rows cols : Nat) : List Char :=
  Nat.toDigits 10 rows ++ 'x' :: Nat.toDigits 10 cols

theorem shape?_shapeCharacters_eq (rows cols : Nat) :
    shape? (shapeCharacters rows cols) =
      size? (Nat.toDigits 10 rows) >>= fun rows =>
        size? (Nat.toDigits 10 cols) >>= fun cols => pure (rows, cols) := by
  have digits : ∀ digit ∈ Nat.toDigits 10 rows, (digit != 'x') = true := by
    intro digit member
    have isDigit := Nat.isDigit_of_mem_toDigits (by decide) (by decide) member
    rw [bne_iff_ne]
    rintro rfl
    exact absurd isDigit (by decide)
  rw [shape?, shapeCharacters, Text.dropWhile_append_stop digits rfl,
    Text.takeWhile_append_stop digits rfl]

theorem shape?_shapeCharacters
    {rows cols : Nat}
    (rowsFit : rows < wordBound)
    (colsFit : cols < wordBound) :
    shape? (shapeCharacters rows cols) = some (rows, cols) := by
  rw [shape?_shapeCharacters_eq, size?_toDigits, size?_toDigits, if_pos rowsFit,
    if_pos colsFit]
  rfl

/-- If a shape is read at all, it is the one that was written. -/
theorem eq_of_mem_shape?_shapeCharacters
    {rows cols : Nat}
    {shape : Nat × Nat}
    (found : shape ∈ shape? (shapeCharacters rows cols)) : shape = (rows, cols) := by
  rw [shape?_shapeCharacters_eq, size?_toDigits, size?_toDigits] at found
  split at found
  · split at found
    · cases found
      rfl
    · cases found
  · cases found

/-- A shape is one word, and no brace is part of it. -/
theorem solid_of_mem_shapeCharacters
    {rows cols : Nat}
    {character : Char}
    (member : character ∈ shapeCharacters rows cols) :
    Text.isBlank character = false ∧ character ≠ ' ' ∧ character ≠ '\x7d' := by
  have kind : character.isDigit = true ∨ character = 'x' := by
    rcases List.mem_append.mp member with first | later
    · exact .inl (Nat.isDigit_of_mem_toDigits (by decide) (by decide) first)
    · rcases List.mem_cons.mp later with between | second
      · exact .inr between
      · exact .inl (Nat.isDigit_of_mem_toDigits (by decide) (by decide) second)
  rcases kind with digit | rfl
  · refine ⟨?_, ?_, ?_⟩
    · refine (Token.solid_of_start (.inl ?_)).1
      rw [Decimal.isLiteralCharacter, digit, Bool.true_or]
    · rintro rfl
      exact absurd digit (by decide)
    · rintro rfl
      exact absurd digit (by decide)
  · decide

/-- What a header has between its braces. -/
def content (rows cols : Nat) : Option String → List Char
  | none => shapeCharacters rows cols
  | some label => shapeCharacters rows cols ++ ' ' :: label.toList

theorem headerText_toList {K : Type} (matrix : CellMatrix K) :
    matrix.headerText.toList =
      " Matrix".toList ++
        '\x7b' :: (content matrix.rows matrix.cols matrix.label ++ ['\x7d']) := by
  unfold headerText content shapeCharacters Fault.shapeText
  cases matrix.label with
  | none => simp
  | some label => simp

/-- No blank stands at an end of what a header has between its braces. -/
theorem trim_content
    {label : Option String}
    (labels : ∀ text ∈ label, IsLabel text)
    (rows cols : Nat) :
    Text.trim (content rows cols label) = content rows cols label := by
  have solid {character : Char} (member : character ∈ shapeCharacters rows cols) :
      Text.isBlank character = false := (solid_of_mem_shapeCharacters member).1
  have nonempty : shapeCharacters rows cols ≠ [] :=
    List.append_ne_nil_of_left_ne_nil Nat.toDigits_ne_nil _
  cases label with
  | none =>
      apply Text.trim_eq_self
      · exact fun first isFirst => solid (List.mem_of_head? isFirst)
      · exact fun last isLast => solid (List.mem_of_getLast? isLast)
  | some label =>
      obtain ⟨labelNonempty, trimmed, unclosed⟩ := labels label rfl
      apply Text.trim_eq_self
      · intro first isFirst
        rw [content, List.head?_append, List.head?_eq_some_head nonempty,
          Option.some_or] at isFirst
        cases isFirst
        exact solid (List.head_mem nonempty)
      · intro last isLast
        rw [content, List.getLast?_append, List.getLast?_cons_of_ne_nil labelNonempty,
          List.getLast?_eq_some_getLast labelNonempty, Option.some_or,
          ← List.getLast?_eq_some_getLast labelNonempty, ← trimmed] at isLast
        exact Text.isBlank_getLast?_trim _ last isLast

/-- The shape and the label are read from what stands between the braces. -/
theorem ofContent_content
    {rows cols : Nat}
    (rowsFit : rows < wordBound)
    (colsFit : cols < wordBound)
    {label : Option String}
    (labels : ∀ text ∈ label, IsLabel text) :
    ofContent (content rows cols label) = ⟨some (rows, cols), label⟩ := by
  have word : ∀ character ∈ shapeCharacters rows cols, (character != ' ') = true :=
    fun character member => bne_iff_ne.mpr (solid_of_mem_shapeCharacters member).2.1
  have space : (' ' != ' ') = false := rfl
  rw [ofContent, trim_content labels]
  cases label with
  | none =>
      have taken := List.takeWhile_eq_self_iff.mpr word
      have dropped := List.dropWhile_eq_nil_iff.mpr word
      simp only [content, taken, dropped, shape?_shapeCharacters rowsFit colsFit]
      rfl
  | some label =>
      obtain ⟨nonempty, trimmed, unclosed⟩ := labels label rfl
      have present : label.toList.isEmpty = false := List.isEmpty_eq_false_iff.mpr nonempty
      simp only [content, Text.takeWhile_append_stop word space,
        Text.dropWhile_append_stop word space,
        shape?_shapeCharacters rowsFit colsFit, List.drop_one, List.tail_cons, trimmed,
        present, String.ofList_toList, Bool.false_eq_true, if_false]

/-- The header of a written matrix is cut off, with its shape and its label. -/
theorem split?_headerText
    {K : Type}
    {matrix : CellMatrix K}
    (rowsFit : matrix.rows < wordBound)
    (colsFit : matrix.cols < wordBound)
    (labels : ∀ text ∈ matrix.label, IsLabel text)
    (body : List Char) :
    split? (matrix.headerText.toList ++ body) =
      some (⟨some (matrix.rows, matrix.cols), matrix.label⟩, body) := by
  have title : ∀ character ∈ " Matrix".toList,
      (character != '\x7b' && character != ',' && character != ';') = true :=
    List.all_eq_true.mp rfl
  have unclosed : ∀ character ∈ content matrix.rows matrix.cols matrix.label,
      (character != '\x7d') = true := by
    intro character member
    rw [bne_iff_ne]
    cases named : matrix.label with
    | none =>
        rw [named] at member
        exact (solid_of_mem_shapeCharacters member).2.2
    | some label =>
        rw [named] at member
        rcases List.mem_append.mp member with shape | later
        · exact (solid_of_mem_shapeCharacters shape).2.2
        · rcases List.mem_cons.mp later with rfl | inside
          · decide
          · rintro rfl
            exact (labels label named).unclosed inside
  have brace : ('\x7d' != '\x7d') = false := rfl
  rw [headerText_toList, List.append_assoc, List.cons_append, List.append_assoc,
    List.singleton_append, split?, Text.dropWhile_append_stop title rfl]
  simp only [Text.dropWhile_append_stop unclosed brace,
    Text.takeWhile_append_stop unclosed brace,
    ofContent_content rowsFit colsFit labels]

end Header
end CellMatrix
end PolyMatrix
