import PolyMatrix.Monomial.Text
import PolyMatrix.Polynomial.Basic

/-!
# Polynomials as text

A polynomial is written from its leading monomial on, with a sign between the
summands.  Coefficients have at most three places; a coefficient that is printed
as one is left out in front of a symbol.
-/

namespace PolyMatrix
namespace Polynomial

variable {K : Type} [Coefficient K]

/-- What stands in front of a summand: a sign between summands, and only a minus
before the first one. -/
def signText (isFirst isNegative : Bool) : String :=
  match isFirst, isNegative with
  | true, true => "-"
  | true, false => ""
  | false, true => " - "
  | false, false => " + "

/-- The coefficient and the symbols of a summand. -/
def bodyText (monomial : Monomial) (k : K) : String :=
  let value := (Coefficient.magnitude k).text
  if !monomial.isUnit && value == "1" then monomial.text
  else value ++ monomial.text

/-- A summand with its sign. -/
def termText (isFirst : Bool) (term : Monomial × K) : String :=
  signText isFirst (Coefficient.isNegative term.2) ++ bodyText term.1 term.2

/-- The written form of a polynomial. -/
def text (p : Polynomial K) : String :=
  match p.terms with
  | [] => "0"
  | leading :: rest => termText true leading ++ String.join (rest.map (termText false))

instance : ToString (Polynomial K) :=
  ⟨text⟩

@[simp] theorem text_zero : (zero : Polynomial K).text = "0" :=
  rfl

/-- The remark is not written. -/
@[simp] theorem text_withNote (p : Polynomial K) (note : String) :
    (p.withNote note).text = p.text :=
  rfl

end Polynomial
end PolyMatrix
