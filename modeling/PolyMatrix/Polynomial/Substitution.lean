import PolyMatrix.Polynomial.Arithmetic
import PolyMatrix.Polynomial.Text

/-!
# Substitution in polynomials

Replacing a product of symbols by a polynomial.  A monomial that the pattern
divides is replaced by the replacement times what the division leaves; the other
monomials stay.
-/

namespace PolyMatrix
namespace Polynomial

variable {K : Type}

/-- Adds one replaced summand: what the pattern leaves of a monomial times the
replacement, or the summand itself if the pattern does not divide it. -/
def substituteTerm
    [Add K] [Mul K] [Coefficient K]
    (pattern : Monomial)
    (replacement sum : Polynomial K)
    (term : Monomial × K) : Polynomial K :=
  match term.1.divide? pattern with
  | some rest =>
      sum.accumulateScaled (replacement.multiplyTerm rest term.2) Coefficient.one
  | none => sum.accumulate term.1 term.2

/-- Whether a pattern divides some monomial of a polynomial. -/
def isMatchedBy (p : Polynomial K) (pattern : Monomial) : Bool :=
  p.terms.any fun term => (term.1.divide? pattern).isSome

/-- The remark that tells which substitution made a polynomial. -/
def substitutionNote
    [Coefficient K]
    (pattern : Monomial)
    (replacement : Polynomial K) : String :=
  "Substituted: " ++ pattern.text ++ " -> " ++ replacement.text

/-- The polynomial with a pattern replaced, if the pattern divides any of its
monomials. -/
def substitute?
    [Add K] [Mul K] [Coefficient K]
    (p : Polynomial K)
    (pattern : Monomial)
    (replacement : Polynomial K) : Option (Polynomial K) :=
  if p.isMatchedBy pattern then
    some ((p.terms.foldl (substituteTerm pattern replacement) zero).withNote
      (substitutionNote pattern replacement))
  else none

/-- The polynomial with a pattern replaced wherever it divides a monomial. -/
def substitute
    [Add K] [Mul K] [Coefficient K]
    (p : Polynomial K)
    (pattern : Monomial)
    (replacement : Polynomial K) : Polynomial K :=
  (p.substitute? pattern replacement).getD p

/-- Nothing is replaced exactly where the pattern divides no monomial. -/
theorem substitute?_eq_none_iff
    [Add K] [Mul K] [Coefficient K]
    (p : Polynomial K)
    (pattern : Monomial)
    (replacement : Polynomial K) :
    p.substitute? pattern replacement = none ↔
      ∀ term ∈ p.terms, term.1.divide? pattern = none := by
  have unmatched : p.isMatchedBy pattern = false ↔
      ∀ term ∈ p.terms, term.1.divide? pattern = none := by
    simp [isMatchedBy, List.any_eq_false]
  rw [← unmatched, substitute?]
  cases p.isMatchedBy pattern <;> simp

end Polynomial
end PolyMatrix
