import PolyMatrix.Decimal

/-!
# Coefficients

What a polynomial asks of the numbers in front of its monomials, besides the
four arithmetic operations.  The class holds operations and no laws: a rounded
number type has few of them, and a statement that needs laws asks for
them.
-/

namespace PolyMatrix

/-- Numbers that can stand in front of a monomial. -/
class Coefficient (K : Type) where
  /-- A count as a coefficient. -/
  ofNat : Nat → K
  /-- The coefficient nearest to a written number. -/
  ofDecimal : Decimal → K
  /-- The coefficients that are too close to zero to be kept. -/
  isNegligible : K → Bool
  /-- The coefficients that are printed with a minus sign. -/
  isNegative : K → Bool
  /-- How far apart two coefficients may be and still count as equal. -/
  tolerance : K
  /-- Whether the absolute difference of the second and the third argument is at
  most the first one. -/
  isWithin : K → K → K → Bool
  /-- The absolute value, rounded for printing. -/
  magnitude : K → Magnitude

namespace Coefficient

variable {K : Type} [Coefficient K]

/-- The coefficient of an absent monomial. -/
def zero : K :=
  ofNat 0

/-- The neutral factor. -/
def one : K :=
  ofNat 1

/-- The factor that a sign stands for. -/
def sign [Neg K] (negative : Bool) : K :=
  if negative then -one else one

/-- A plus sign stands for one. -/
@[simp] theorem sign_false [Neg K] : sign false = (one : K) :=
  rfl

/-- A minus sign stands for the negative of one. -/
@[simp] theorem sign_true [Neg K] : sign true = (-one : K) :=
  rfl

end Coefficient
end PolyMatrix
