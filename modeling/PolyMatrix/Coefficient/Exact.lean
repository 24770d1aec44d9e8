import PolyMatrix.Coefficient

/-!
# Exact coefficients

Integers, of which only zero is negligible, and rationals, of which everything
closer to zero than a ten-billionth is.
-/

namespace PolyMatrix

/-- The rationals closer to zero than this are negligible. -/
def rationalTolerance : Rat :=
  mkRat 1 10000000000

/-- Integers drop the fraction of a written number and keep every coefficient but
zero. -/
instance instCoefficientInt : Coefficient Int where
  ofNat count := count
  ofDecimal decimal := (decimal.mantissa / decimal.denominator : Nat)
  isNegligible value := value == 0
  isNegative value := decide (value < 0)
  tolerance := 0
  isWithin tolerance left right := decide (((left - right).natAbs : Int) ≤ tolerance)
  magnitude value := .thousandths (value.natAbs * 1000)

/-- Rationals are read exactly and printed to the nearest thousandth. -/
instance instCoefficientRat : Coefficient Rat where
  ofNat count := count
  ofDecimal decimal := mkRat decimal.mantissa decimal.denominator
  isNegligible value :=
    decide (-rationalTolerance < value) && decide (value < rationalTolerance)
  isNegative value := decide (value < 0)
  tolerance := rationalTolerance
  isWithin tolerance left right :=
    decide (-tolerance ≤ left - right) && decide (left - right ≤ tolerance)
  magnitude value :=
    .thousandths (roundHalfEven (value.num.natAbs * 1000) value.den)

/-- Only zero is negligible among the integers. -/
@[simp] theorem isNegligible_int (value : Int) :
    Coefficient.isNegligible value = (value == 0) :=
  rfl

/-- Integers that count as equal are equal. -/
theorem isWithin_int (left right : Int) :
    Coefficient.isWithin (0 : Int) left right = true ↔ left = right := by
  simp only [Coefficient.isWithin, decide_eq_true_eq]
  omega

end PolyMatrix
