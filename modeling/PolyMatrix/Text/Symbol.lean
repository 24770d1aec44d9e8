/-!
# Symbol names

A symbol is named by a letter or an underscore, followed by letters, digits and
underscores.  Letters and digits are those of ASCII; every other character ends
a name.
-/

namespace PolyMatrix
namespace Text

/-- The characters that a name may begin with. -/
def isNameStart (character : Char) : Bool :=
  character.isAlpha || character == '_'

/-- The characters that a name may go on with. -/
def isNameCharacter (character : Char) : Bool :=
  character.isAlphanum || character == '_'

/-- The texts that name a symbol. -/
def isName : List Char → Bool
  | [] => false
  | first :: rest => isNameStart first && rest.all isNameCharacter

/-- A name may go on with whatever it may begin with. -/
theorem isNameCharacter_of_isNameStart
    {character : Char}
    (start : isNameStart character = true) : isNameCharacter character = true := by
  simp only [isNameStart, isNameCharacter, Char.isAlphanum, Bool.or_eq_true] at *
  rcases start with letter | underscore
  · exact .inl (.inl letter)
  · exact .inr underscore

/-- A name has a character. -/
theorem ne_nil_of_isName {text : List Char} (name : isName text = true) :
    text ≠ [] := by
  rintro rfl
  simp [isName] at name

end Text
end PolyMatrix
