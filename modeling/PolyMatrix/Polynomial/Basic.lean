import PolyMatrix.Coefficient
import PolyMatrix.Monomial

/-!
# Polynomials

A polynomial is a sum of monomials with coefficients, held in monomial order, so
the leading monomial comes first.  Every operation builds its result by adding
one scaled monomial after another to a polynomial, and that step drops whatever
is negligible.  Hence `Canonical`: distinct monomials in order, none of them with
a negligible coefficient, whatever the coefficients do under rounding.
-/

namespace PolyMatrix

/-- A sum of scaled monomials. -/
structure Polynomial (K : Type) where
  /-- The monomials with their coefficients, in monomial order. -/
  terms : List (Monomial × K)
  /-- A remark on where the polynomial comes from; it takes no part in its value. -/
  note : Option String := none

namespace Polynomial

variable {K : Type}

/-- The sum of no monomials. -/
def zero : Polynomial K :=
  { terms := [] }

instance : Inhabited (Polynomial K) :=
  ⟨zero⟩

/-- Adds a scaled monomial to a sum in monomial order; a monomial whose
coefficient becomes negligible is taken out. -/
def insertTerm [Add K] [Coefficient K] (monomial : Monomial) (k : K) :
    List (Monomial × K) → List (Monomial × K)
  | [] => [(monomial, k)]
  | (head, coefficient) :: rest =>
      if monomial = head then
        if Coefficient.isNegligible (coefficient + k) then rest
        else (head, coefficient + k) :: rest
      else if monomial.precedes head then
        (monomial, k) :: (head, coefficient) :: rest
      else
        (head, coefficient) :: insertTerm monomial k rest

/-- The polynomial with `k` times a monomial added, unless `k` is negligible. -/
def accumulate
    [Add K] [Coefficient K]
    (p : Polynomial K)
    (monomial : Monomial)
    (k : K) : Polynomial K :=
  if Coefficient.isNegligible k then p
  else { p with terms := insertTerm monomial k p.terms }

/-- The sum of scaled monomials in any order, repetitions allowed. -/
def ofTerms [Add K] [Coefficient K] (terms : List (Monomial × K)) : Polynomial K :=
  terms.foldl (fun sum term => sum.accumulate term.1 term.2) zero

/-- A single scaled monomial. -/
def ofTerm [Add K] [Coefficient K] (monomial : Monomial) (k : K) : Polynomial K :=
  zero.accumulate monomial k

/-- A polynomial without symbols. -/
def constant [Add K] [Coefficient K] (k : K) : Polynomial K :=
  ofTerm .unit k

/-- The polynomial that every other one is a multiple of. -/
def one [Add K] [Coefficient K] : Polynomial K :=
  constant Coefficient.one

/-- Whether a polynomial has no monomials. -/
def isZero (p : Polynomial K) : Bool :=
  p.terms.isEmpty

/-- How many monomials a polynomial has. -/
def size (p : Polynomial K) : Nat :=
  p.terms.length

/-- The coefficient of a monomial, zero if the monomial is absent. -/
def coefficient [Coefficient K] (p : Polynomial K) (monomial : Monomial) : K :=
  (p.terms.lookup monomial).getD Coefficient.zero

/-- The monomial that comes first in monomial order, with its coefficient. -/
def leading? (p : Polynomial K) : Option (Monomial × K) :=
  p.terms.head?

/-- The sum of all coefficients, which is the value where every symbol is one.  It starts from
positive zero.  Where zeros have signs a sum may start from negative zero instead, and then the
sum of no coefficients is negative zero; if no stored coefficient is zero, all other sums are
the same. -/
def coefficientSum [Add K] [Coefficient K] (p : Polynomial K) : K :=
  p.terms.foldl (fun sum term => sum + term.2) Coefficient.zero

/-- A rough measure of length: every monomial counts one more than its degree. -/
def weight (p : Polynomial K) : Nat :=
  p.terms.foldr (fun term sum => 1 + term.1.degree + sum) 0

/-- The polynomial with a remark attached. -/
def withNote (p : Polynomial K) (note : String) : Polynomial K :=
  { p with note := some note }

/-- The polynomial without its remark. -/
def withoutNote (p : Polynomial K) : Polynomial K :=
  { p with note := none }

/-- Distinct monomials in monomial order, and no negligible coefficient. -/
structure Canonical [Coefficient K] (p : Polynomial K) : Prop where
  /-- Each monomial precedes all that follow it. -/
  descending : p.terms.Pairwise fun earlier later =>
    earlier.1.precedes later.1 = true
  /-- Every coefficient is worth keeping. -/
  significant : ∀ term ∈ p.terms, Coefficient.isNegligible term.2 = false

@[simp] theorem terms_zero : (zero : Polynomial K).terms = [] :=
  rfl

@[simp] theorem note_zero : (zero : Polynomial K).note = none :=
  rfl

@[simp] theorem terms_withNote (p : Polynomial K) (note : String) :
    (p.withNote note).terms = p.terms :=
  rfl

@[simp] theorem terms_withoutNote (p : Polynomial K) :
    p.withoutNote.terms = p.terms :=
  rfl

/-- A negligible coefficient adds nothing. -/
@[simp] theorem accumulate_of_isNegligible
    [Add K] [Coefficient K]
    (p : Polynomial K)
    (monomial : Monomial)
    {k : K}
    (negligible : Coefficient.isNegligible k = true) :
    p.accumulate monomial k = p := by
  simp [accumulate, negligible]

/-- Adding a scaled monomial keeps the remark. -/
@[simp] theorem note_accumulate
    [Add K] [Coefficient K]
    (p : Polynomial K)
    (monomial : Monomial)
    (k : K) : (p.accumulate monomial k).note = p.note := by
  unfold accumulate
  split <;> rfl

/-- The zero polynomial is canonical. -/
theorem Canonical.zero [Coefficient K] : (zero : Polynomial K).Canonical :=
  ⟨.nil, by simp⟩

end Polynomial
end PolyMatrix
