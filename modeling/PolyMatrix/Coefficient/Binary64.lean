import PolyMatrix.Coefficient

/-!
# Coefficients in binary floating point

Double-precision numbers.  A written number becomes the nearest one, and a
number is printed from its exact binary value, to the nearest thousandth.
-/

namespace PolyMatrix
namespace Binary64

/-- The coefficients closer to zero than this are negligible. -/
def epsilon : Float :=
  1e-10

/-- The thousandths nearest to `mantissa * 2 ^ exponent`. -/
def roundedThousandths (mantissa : Nat) : Int → Nat
  | .ofNat exponent => mantissa * Nat.pow 2 exponent * 1000
  | .negSucc exponent => roundHalfEven (mantissa * 1000) (Nat.pow 2 (exponent + 1))

/-- The absolute value of a number, rounded for printing. -/
def magnitude (value : Float) : Magnitude :=
  match value.toModel.unpack with
  | .notANumber => .undefined
  | .infinity _ => .infinite
  | .zero _ => .thousandths 0
  | .finite _ mantissa exponent _ => .thousandths (roundedThousandths mantissa exponent)

end Binary64

/-- A double-precision number is negligible below `Binary64.epsilon`. -/
instance instCoefficientFloat : Coefficient Float where
  ofNat := Float.ofNat
  ofDecimal decimal := Float.ofScientific decimal.mantissa true decimal.places
  isNegligible value := decide (value.abs < Binary64.epsilon)
  isNegative value := decide (value < 0)
  tolerance := Binary64.epsilon
  isWithin tolerance left right := decide ((left - right).abs ≤ tolerance)
  magnitude := Binary64.magnitude

end PolyMatrix
