import PolyMatrix.Fault
import PolyMatrix.Polynomial.Basic

/-!
# Arithmetic of polynomials

Sums, scaled sums and products.  Each is a fold of `Polynomial.accumulate` in a
fixed order: the left operand's monomials in monomial order, for each of them
the right operand's.  The order matters because coefficients may be rounded.
-/

namespace PolyMatrix
namespace Polynomial

variable {K : Type}

/-- Adds `k` times every monomial of `other`. -/
def accumulateScaled
    [Add K] [Mul K] [Coefficient K]
    (p other : Polynomial K)
    (k : K) : Polynomial K :=
  other.terms.foldl (fun sum term => sum.accumulate term.1 (term.2 * k)) p

/-- The sum of one polynomial and a multiple of another. -/
def addScaled [Add K] [Mul K] [Coefficient K] (p q : Polynomial K) (k : K) :
    Polynomial K :=
  p.withoutNote.accumulateScaled q k

/-- The sum of two polynomials. -/
def add [Add K] [Mul K] [Coefficient K] (p q : Polynomial K) : Polynomial K :=
  p.addScaled q Coefficient.one

/-- The difference of two polynomials. -/
def subtract [Add K] [Neg K] [Mul K] [Coefficient K] (p q : Polynomial K) :
    Polynomial K :=
  p.addScaled q (-Coefficient.one)

/-- The sum of a polynomial and a number. -/
def addScalar [Add K] [Coefficient K] (p : Polynomial K) (k : K) : Polynomial K :=
  p.withoutNote.accumulate .unit k

/-- The product of a polynomial and a scaled monomial. -/
def multiplyTerm
    [Add K] [Mul K] [Coefficient K]
    (p : Polynomial K)
    (monomial : Monomial)
    (k : K) : Polynomial K :=
  if Coefficient.isNegligible k then zero
  else
    p.terms.foldl
      (fun sum term => sum.accumulate (term.1.multiply monomial) (term.2 * k)) zero

/-- The product of a polynomial and a number. -/
def scale [Add K] [Mul K] [Coefficient K] (p : Polynomial K) (k : K) :
    Polynomial K :=
  p.multiplyTerm .unit k

/-- The polynomial with every sign turned. -/
def negate [Add K] [Neg K] [Mul K] [Coefficient K] (p : Polynomial K) :
    Polynomial K :=
  p.scale (-Coefficient.one)

/-- The product of two polynomials. -/
def multiply [Add K] [Mul K] [Coefficient K] (p q : Polynomial K) : Polynomial K :=
  p.terms.foldl
    (fun sum left =>
      q.terms.foldl
        (fun sum right =>
          sum.accumulate (left.1.multiply right.1) (left.2 * right.2)) sum) zero

/-- A natural power, by multiplying from the left. -/
def power [Add K] [Mul K] [Coefficient K] (p : Polynomial K) : Nat → Polynomial K
  | 0 => one
  | exponent + 1 => (p.power exponent).multiply p

/-- The sum of a list of polynomials, from the left. -/
def sum [Add K] [Mul K] [Coefficient K] (items : List (Polynomial K)) :
    Polynomial K :=
  items.foldl add zero

/-- The sum of the products of polynomials at equal places. -/
def dot [Add K] [Mul K] [Coefficient K] (left right : List (Polynomial K)) :
    Polynomial K :=
  (left.zip right).foldl
    (fun sum pair => sum.accumulateScaled (pair.1.multiply pair.2) Coefficient.one)
    zero

/-- The scalar product of two vectors of one length. -/
def dotProduct [Add K] [Mul K] [Coefficient K] (left right : List (Polynomial K)) :
    Except Fault (Polynomial K) :=
  if left.length = right.length then .ok (dot left right)
  else .error (.lengthsDiffer left.length right.length)

instance [Add K] [Mul K] [Coefficient K] : Add (Polynomial K) :=
  ⟨add⟩

instance [Add K] [Neg K] [Mul K] [Coefficient K] : Sub (Polynomial K) :=
  ⟨subtract⟩

instance [Add K] [Neg K] [Mul K] [Coefficient K] : Neg (Polynomial K) :=
  ⟨negate⟩

instance [Add K] [Mul K] [Coefficient K] : Mul (Polynomial K) :=
  ⟨multiply⟩

instance [Add K] [Mul K] [Coefficient K] : HMul (Polynomial K) K (Polynomial K) :=
  ⟨scale⟩

@[simp] theorem accumulateScaled_zero
    [Add K] [Mul K] [Coefficient K]
    (p : Polynomial K)
    (k : K) : p.accumulateScaled zero k = p :=
  rfl

@[simp] theorem multiply_zero_left
    [Add K] [Mul K] [Coefficient K]
    (q : Polynomial K) : zero.multiply q = zero :=
  rfl

@[simp] theorem multiplyTerm_zero
    [Add K] [Mul K] [Coefficient K]
    (monomial : Monomial)
    (k : K) : (zero.multiplyTerm monomial k) = zero := by
  unfold multiplyTerm
  split <;> rfl

@[simp] theorem dot_nil
    [Add K] [Mul K] [Coefficient K]
    (right : List (Polynomial K)) : dot [] right = zero :=
  rfl

/-- The lengths decide whether a scalar product exists. -/
theorem dotProduct_eq_ok_iff
    [Add K] [Mul K] [Coefficient K]
    (left right : List (Polynomial K))
    (p : Polynomial K) :
    dotProduct left right = .ok p ↔
      left.length = right.length ∧ dot left right = p := by
  unfold dotProduct
  split <;> simp_all

end Polynomial
end PolyMatrix
