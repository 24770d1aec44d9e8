import PolyMatrix.Fault
import PolyMatrix.Monomial
import PolyMatrix.Text.Blank
import PolyMatrix.Text.Fields
import PolyMatrix.Text.Symbol

/-!
# Monomials as text

A monomial is written as its symbols with stars between them, the unit as the
empty text.  Reading also takes blanks for stars, and any number of either.
-/

namespace PolyMatrix
namespace Monomial

/-- The characters that may stand between symbols. -/
def separates (character : Char) : Bool :=
  Text.isBlank character || character == '*'

/-- The monomial whose symbols stand in a text, if nothing else does. -/
def ofCharacters? (text : List Char) : Option Monomial :=
  let words := (Text.fields separates text).filter fun word => !word.isEmpty
  if words.all Text.isName then some (ofSymbols (words.map String.ofList))
  else none

/-- Reads a monomial. -/
def parse (text : String) : Except Fault Monomial :=
  match ofCharacters? text.toList with
  | some monomial => .ok monomial
  | none => .error (.notMonomial text)

/-- The symbols with stars between them. -/
def text (monomial : Monomial) : String :=
  "*".intercalate monomial.symbols

instance : ToString Monomial :=
  ⟨text⟩

/-- The empty text is the unit. -/
@[simp] theorem parse_empty : parse "" = .ok unit := by
  cbv

/-- The only fault in a monomial's text is the text itself. -/
theorem parse_eq_error_iff (source : String) (fault : Fault) :
    parse source = .error fault ↔
      ofCharacters? source.toList = none ∧ fault = .notMonomial source := by
  unfold parse
  split
  · rename_i found
    simp [found]
  · rename_i missing
    simp [missing, eq_comm]

end Monomial
end PolyMatrix
