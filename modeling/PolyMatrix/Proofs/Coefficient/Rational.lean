import Mathlib.Algebra.Order.Field.Basic
import Mathlib.Algebra.Order.Field.Rat
import Mathlib.Tactic.Linarith
import PolyMatrix.Coefficient.Exact

/-!
# Rational coefficients

A rational is negligible if its absolute value is below the tolerance, which is positive.  So
what is not negligible is not zero, and stays so under division by numbers of at most one.
-/

namespace PolyMatrix

/-- The rationals worth keeping have at least the absolute value of the tolerance. -/
theorem isNegligible_eq_false_iff (value : ℚ) :
    Coefficient.isNegligible value = false ↔ rationalTolerance ≤ |value| := by
  change (decide (-rationalTolerance < value) && decide (value < rationalTolerance)) = false ↔ _
  rw [Bool.and_eq_false_iff, decide_eq_false_iff_not, decide_eq_false_iff_not, not_lt, not_lt,
    le_abs', le_neg]

theorem isNegligible_eq_true_iff (value : ℚ) :
    Coefficient.isNegligible value = true ↔ |value| < rationalTolerance := by
  rw [← Bool.not_eq_false, isNegligible_eq_false_iff, not_le]

theorem rationalTolerance_pos : 0 < rationalTolerance := by
  rw [rationalTolerance, Rat.mkRat_eq_div]
  norm_num

theorem ne_zero_of_significant
    {value : ℚ}
    (significant : Coefficient.isNegligible value = false) : value ≠ 0 := by
  rw [isNegligible_eq_false_iff] at significant
  exact abs_pos.mp (rationalTolerance_pos.trans_le significant)

/-- Dividing by a number of at most one keeps a coefficient worth keeping. -/
theorem significant_div
    {dividend divisor : ℚ}
    (significant : Coefficient.isNegligible dividend = false)
    (notZero : divisor ≠ 0)
    (atMostOne : |divisor| ≤ 1) : Coefficient.isNegligible (dividend / divisor) = false := by
  rw [isNegligible_eq_false_iff] at significant ⊢
  rw [abs_div]
  exact significant.trans (le_div_self (abs_nonneg _) (abs_pos.mpr notZero) atMostOne)

end PolyMatrix
