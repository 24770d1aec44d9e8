/-!
# Blank characters

White space as the Unicode standard lists it, and its removal at the ends of a
text.  Texts are lists of characters here, so that reading them is recursion on
a list.
-/

namespace PolyMatrix
namespace Text

/-- The twenty-five characters that carry the Unicode property of white space. -/
def isBlank (character : Char) : Bool :=
  let code := character.toNat
  (9 ≤ code && code ≤ 13) || code == 0x20 || code == 0x85 || code == 0xA0 ||
    code == 0x1680 || (0x2000 ≤ code && code ≤ 0x200A) || code == 0x2028 ||
    code == 0x2029 || code == 0x202F || code == 0x205F || code == 0x3000

/-- The blanks that lay out rows of a table: space, tab and the line breaks of
ASCII. -/
def isLayout (character : Char) : Bool :=
  character == ' ' || character == '\t' || character == '\r' || character == '\n'

/-- A text that holds nothing but blanks. -/
def allBlank (text : List Char) : Bool :=
  text.all isBlank

/-- The text without the blanks at its front. -/
def trimLeft (text : List Char) : List Char :=
  text.dropWhile isBlank

/-- The text without the blanks at its end. -/
def trimRight (text : List Char) : List Char :=
  (text.reverse.dropWhile isBlank).reverse

/-- The text without the blanks at either end. -/
def trim (text : List Char) : List Char :=
  trimRight (trimLeft text)

/-- Layout characters are blank. -/
theorem isBlank_of_isLayout
    {character : Char}
    (layout : isLayout character = true) : isBlank character = true := by
  simp only [isLayout, Bool.or_eq_true, beq_iff_eq] at layout
  rcases layout with ((rfl | rfl) | rfl) | rfl <;> decide

/-- Every blank that the standard library knows is blank here. -/
theorem isBlank_of_isWhitespace
    {character : Char}
    (white : character.isWhitespace = true) : isBlank character = true := by
  simp only [Char.isWhitespace, Bool.or_eq_true, decide_eq_true_eq] at white
  rcases white with ((rfl | rfl) | rfl) | rfl <;> decide

/-- In the empty text there is nothing to trim. -/
@[simp] theorem trimLeft_nil : trimLeft [] = [] :=
  rfl

end Text
end PolyMatrix
