import PolyMatrix.Expression.Reader
import PolyMatrix.Polynomial.Arithmetic

/-!
# Polynomials from expressions

Every expression denotes a polynomial: numbers are rounded to coefficients where
they stand, and signs, products and sums are those of polynomials.
-/

namespace PolyMatrix

variable {K : Type} [Add K] [Neg K] [Mul K] [Coefficient K]

/-- The polynomial that an expression denotes. -/
def Expression.toPolynomial : Expression → Polynomial K
  | .zero => .zero
  | .number value => .constant (Coefficient.ofDecimal value)
  | .symbol name => .ofTerm (.ofSymbols [name]) Coefficient.one
  | .multiple value name => .ofTerm (.ofSymbols [name]) (Coefficient.ofDecimal value)
  | .signed negative operand => operand.toPolynomial.scale (Coefficient.sign negative)
  | .product left right => left.toPolynomial.multiply right.toPolynomial
  | .sum left negative right =>
      left.toPolynomial.accumulateScaled right.toPolynomial
        (Coefficient.sign negative)

namespace Polynomial

/-- Reads a polynomial. -/
def parse (source : String) : Attempt (Polynomial K) := do
  let expression ← Expression.parse source
  pure expression.toPolynomial

/-- A text is read as a polynomial exactly where it is read as an expression. -/
theorem result_parse (source : String) :
    (parse source : Attempt (Polynomial K)).result =
      (Expression.parse source).result.map Expression.toPolynomial := by
  unfold parse
  rw [Attempt.result_bind]
  cases (Expression.parse source).result <;> rfl

end Polynomial
end PolyMatrix
