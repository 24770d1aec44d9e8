import PolyMatrix.Noted
import PolyMatrix.Polynomial.Arithmetic

/-!
# Division of polynomials

Division by the leading monomial.  As long as the divisor's leading monomial
divides the leading monomial of the remainder, the quotient of the two is moved
to the quotient.  Division ends at the first leading monomial that is not
divisible, so it is complete for one symbol and for exact multiples, and a
remainder in several symbols proves nothing.

A division also ends if the leading monomial fails to descend, which happens only
where rounding leaves a leading monomial behind.  Leading monomials that descend
have at most the dividend's degree and the symbols of the two operands, and there
are at most `maximumSteps` of those.
-/

namespace PolyMatrix
namespace Polynomial

variable {K : Type}

/-- The two results of a division. -/
structure Division (K : Type) where
  /-- How often the divisor is contained. -/
  quotient : Polynomial K
  /-- What is left. -/
  remainder : Polynomial K

namespace Division

/-- A division under way. -/
structure State (K : Type) extends Division K where
  /-- The leading monomial that was reduced last. -/
  previous : Option Monomial

/-- How a division goes on. -/
inductive Progress (K : Type) where
  /-- The remainder is zero, or its leading monomial is not divisible. -/
  | finished
  /-- The leading monomial does not come after the one reduced before. -/
  | stuck (leading : Monomial)
  /-- The leading monomial was reduced. -/
  | reduced (next : State K)

/-- The state before the first reduction. -/
def start (dividend : Polynomial K) : State K :=
  { quotient := zero, remainder := dividend.withoutNote, previous := none }

/-- Whether a leading monomial comes after the one reduced before. -/
def descends (previous : Option Monomial) (leading : Monomial) : Bool :=
  match previous with
  | some earlier => earlier.precedes leading
  | none => true

/-- One reduction of the leading monomial, by a divisor with the leading term
`head`. -/
def step
    [Add K] [Neg K] [Mul K] [Div K] [Coefficient K]
    (divisor : Polynomial K)
    (head : Monomial × K)
    (state : State K) : Progress K :=
  match state.remainder.leading? with
  | none => .finished
  | some (leading, coefficient) =>
      if descends state.previous leading then
        match leading.divide? head.1 with
        | none => .finished
        | some monomial =>
            let k := coefficient / head.2
            .reduced
              { quotient := state.quotient.accumulate monomial k
                remainder := state.remainder.subtract (divisor.multiplyTerm monomial k)
                previous := some leading }
      else .stuck leading

/-- Reduces up to `steps` times. -/
def run
    [Add K] [Neg K] [Mul K] [Div K] [Coefficient K]
    (divisor : Polynomial K)
    (head : Monomial × K) : Nat → State K → Noted (Division K)
  | 0, state => pure state.toDivision
  | steps + 1, state =>
      match step divisor head state with
      | .finished => pure state.toDivision
      | .stuck leading => do
          Noted.note (.divisionStopped leading)
          pure state.toDivision
      | .reduced next => run divisor head steps next

/-- The symbols that occur in a polynomial, each once. -/
def symbols (p : Polynomial K) : List String :=
  (p.terms.flatMap fun term => term.1.symbols).eraseDups

/-- The greatest degree of a monomial. -/
def degree (p : Polynomial K) : Nat :=
  (p.terms.map fun term => term.1.degree).foldr max 0

/-- A bound on the monomials of at most the dividend's degree over the symbols of
both operands, and so on the reductions: no exponent exceeds the degree. -/
def maximumSteps (dividend divisor : Polynomial K) : Nat :=
  Nat.pow (degree dividend + 1) (symbols dividend ++ symbols divisor).length

end Division

/-- Quotient and remainder; a zero divisor leaves everything in the remainder. -/
def divide
    [Add K] [Neg K] [Mul K] [Div K] [Coefficient K]
    (dividend divisor : Polynomial K) : Noted (Division K) :=
  match divisor.leading? with
  | none => pure (Division.start dividend).toDivision
  | some head =>
      Division.run divisor head (Division.maximumSteps dividend divisor + 1)
        (Division.start dividend)

end Polynomial
end PolyMatrix
