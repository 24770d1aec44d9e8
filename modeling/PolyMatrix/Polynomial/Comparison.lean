import PolyMatrix.Polynomial.Basic

/-!
# Comparing polynomials

Two polynomials agree if their coefficients do, monomial by monomial and up to a
tolerance; a missing monomial counts as zero, and so does a missing polynomial.
Remarks take no part.
-/

namespace PolyMatrix
namespace Polynomial

variable {K : Type} [Coefficient K]

/-- The monomials of a polynomial in order. -/
def monomials (p : Polynomial K) : List Monomial :=
  p.terms.map Prod.fst

/-- Whether the coefficients of every monomial differ by no more than a
tolerance. -/
def isWithin (tolerance : K) (p q : Polynomial K) : Bool :=
  (p.monomials ++ q.monomials).all fun monomial =>
    Coefficient.isWithin tolerance (p.coefficient monomial) (q.coefficient monomial)

/-- Whether two polynomials count as equal. -/
def agrees (p q : Polynomial K) : Bool :=
  isWithin Coefficient.tolerance p q

/-- Whether a polynomial counts as equal to one that may be missing. -/
def agreesWith? (p : Polynomial K) : Option (Polynomial K) → Bool
  | some q => p.agrees q
  | none => p.isZero

end Polynomial
end PolyMatrix
