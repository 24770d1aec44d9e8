import PolyMatrix.Coefficient.Binary64
import PolyMatrix.Proofs.Polynomial.Reductions

/-!
# Divisions come to an end

A division ends whatever its coefficients do, be they rounded, infinite or undefined.  A
leading term that fails to cancel ends it at once, and otherwise the leading monomials
descend.  Descending alone is not enough, since monomials of one degree can descend for ever
if new symbols turn up.  But no new symbols turn up, and the degree does not grow.
-/

namespace PolyMatrix
namespace Polynomial

variable {K : Type} [Add K] [Neg K] [Mul K] [Div K] [Coefficient K]

namespace Division

/-- A division by a polynomial with the leading term `head` comes to an end by itself. -/
structure Terminates
    (dividend divisor : Polynomial K)
    (head : Monomial × K) : Prop where
  /-- Whatever reductions are made, they are no more than there are monomials of the
  dividend's degree over the symbols of both operands. -/
  bounded : ∀ leadings state, Reduces divisor head (start dividend) leadings state →
    leadings.length ≤ (candidates dividend divisor).ncard
  /-- Some reductions lead to where none is left, and the results are what is found there. -/
  ends : ∃ leadings final, Reduces divisor head (start dividend) leadings final ∧
    (∀ next, step divisor head final ≠ .reduced next) ∧
    (dividend.divide divisor).value = final.toDivision
  /-- A limit on the steps makes no difference if it is above that number. -/
  unlimited : ∀ steps, (candidates dividend divisor).ncard < steps →
    run divisor head steps (start dividend) = dividend.divide divisor

end Division

open Division

/-- Every division ends: by a polynomial without monomials at once, and by any other one after
no more reductions than there are monomials to be reduced.  Of the divisor only the order of
its monomials is asked, and of the coefficients nothing at all. -/
theorem divide_terminates
    (dividend : Polynomial K)
    {divisor : Polynomial K}
    (descending : divisor.terms.Pairwise fun earlier later =>
      earlier.1.precedes later.1 = true) :
    (divisor.leading? = none →
      dividend.divide divisor = pure ⟨zero, dividend.withoutNote⟩) ∧
    ∀ head ∈ divisor.leading?, Terminates dividend divisor head := by
  constructor
  · intro noHead
    rw [divide, noHead]
    rfl
  · intro head leads
    obtain ⟨leadings, final, reduces, noneLeft, result⟩ :=
      exists_reduces_divide dividend descending leads
    have few := reduces.length_le descending leads
    constructor
    case bounded =>
      intro others state reducesThere
      exact reducesThere.length_le descending leads
    case ends =>
      refine ⟨leadings, final, reduces, noneLeft, ?_⟩
      rw [result, value_run_one noneLeft]
    case unlimited =>
      intro steps enough
      rw [result]
      exact reduces.run_eq noneLeft (few.trans_lt enough)

/-- In double precision, with coefficients of which no quotient can be taken. -/
theorem divide_terminates_undefined :
    let dividend : Polynomial Float :=
      ⟨[(.ofSymbols ["x", "x", "y"], 1 / 0), (.ofSymbols ["y"], 1e300)], none⟩
    let divisor : Polynomial Float :=
      ⟨[(.ofSymbols ["x"], 0 / 0), (.unit, -1 / 0)], none⟩
    (divisor.terms.Pairwise fun earlier later => earlier.1.precedes later.1 = true) ∧
      Terminates dividend divisor (.ofSymbols ["x"], 0 / 0) := by
  intro dividend divisor
  have descending : divisor.terms.Pairwise fun earlier later =>
      earlier.1.precedes later.1 = true := by
    decide +kernel
  exact ⟨descending, (divide_terminates dividend descending).2 _ rfl⟩

end Polynomial
end PolyMatrix
