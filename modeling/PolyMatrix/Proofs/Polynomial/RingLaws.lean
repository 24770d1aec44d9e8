import Mathlib.Tactic.Ring
import PolyMatrix.Proofs.Polynomial.Meaning

/-!
# Polynomials over the integers form a commutative ring

Canonical polynomials are equal where they denote the same, so the laws of a
commutative ring hold of the stored monomials and coefficients themselves.  Every
result of arithmetic comes without a remark; a neutral operand only takes the
remark away.
-/

namespace PolyMatrix
namespace Polynomial

/-- The sum of the products of all stored coefficients whose monomials multiply to
the given one. -/
def convolution (p q : Polynomial ℤ) (monomial : Monomial) : ℤ :=
  (((p.terms ×ˢ q.terms).filter fun pair =>
    pair.1.1.multiply pair.2.1 = monomial).map fun pair => pair.1.2 * pair.2.2).sum

/-- The laws of a commutative ring for three polynomials, and what their products
store. -/
structure CommutativeRingLaws (p q r : Polynomial ℤ) : Prop where
  add_assoc : (p.add q).add r = p.add (q.add r)
  add_comm : p.add q = q.add p
  multiply_assoc : (p.multiply q).multiply r = p.multiply (q.multiply r)
  multiply_comm : p.multiply q = q.multiply p
  multiply_add : p.multiply (q.add r) = (p.multiply q).add (p.multiply r)
  add_multiply : (p.add q).multiply r = (p.multiply r).add (q.multiply r)
  zero_add : zero.add p = p.withoutNote
  add_zero : p.add zero = p.withoutNote
  one_multiply : (constant 1).multiply p = p.withoutNote
  multiply_one : p.multiply (constant 1) = p.withoutNote
  /-- A polynomial and its negative cancel without a trace. -/
  add_negate : p.add p.negate = zero
  subtract_self : p.subtract p = zero
  subtract_add : (p.subtract q).add q = p.withoutNote
  coefficient_multiply : ∀ monomial,
    (p.multiply q).coefficient monomial = p.convolution q monomial
  /-- A product stores a monomial exactly if the products that meet there do not
  cancel. -/
  stored_multiply : ∀ monomial,
    (∃ k, (monomial, k) ∈ (p.multiply q).terms) ↔ p.convolution q monomial ≠ 0

theorem Canonical.eq_of_meaning_eq
    {p q : Polynomial ℤ}
    (canonicalP : p.Canonical)
    (canonicalQ : q.Canonical)
    (sameNote : p.note = q.note)
    (same : p.meaning = q.meaning) : p = q :=
  eq_of_terms_eq (canonicalP.terms_eq_of_meaning_eq canonicalQ same) sameNote

/-- The coefficients of a product, whatever its operands store. -/
theorem coefficient_multiply_eq_convolution
    (p q : Polynomial ℤ)
    (monomial : Monomial) :
    (p.multiply q).coefficient monomial = p.convolution q monomial := by
  rw [← (canonical_multiply p q).coeff_meaning, meaning_multiply_eq_sum,
    convolution]
  induction p.terms ×ˢ q.terms with
  | nil => rfl
  | cons pair rest inductionHypothesis =>
      rw [List.map_cons, List.sum_cons, MvPolynomial.coeff_add, inductionHypothesis,
        List.filter_cons]
      by_cases meets : pair.1.1.multiply pair.2.1 = monomial
      · rw [if_pos (decide_eq_true meets), List.map_cons, List.sum_cons, meets,
          Monomial.coeff_scaled_self]
      · rw [if_neg (by simpa using meets), Monomial.coeff_scaled_of_ne meets,
          Int.zero_add]

/-- Canonical polynomials with integer coefficients obey the laws of a commutative
ring, monomial by monomial as they are stored. -/
theorem commutativeRingLaws
    {p q r : Polynomial ℤ}
    (canonicalP : p.Canonical)
    (canonicalQ : q.Canonical) : CommutativeRingLaws p q r where
  add_assoc := by
    apply ((canonicalP.add q).add r).eq_of_meaning_eq (canonicalP.add _)
    · rw [note_add, note_add]
    · simp only [meaning_add]
      ring
  add_comm := by
    apply (canonicalP.add q).eq_of_meaning_eq (canonicalQ.add p)
    · rw [note_add, note_add]
    · simp only [meaning_add]
      ring
  multiply_assoc := by
    apply (canonical_multiply _ _).eq_of_meaning_eq (canonical_multiply _ _)
    · rw [note_multiply, note_multiply]
    · simp only [meaning_multiply]
      ring
  multiply_comm := by
    apply (canonical_multiply _ _).eq_of_meaning_eq (canonical_multiply _ _)
    · rw [note_multiply, note_multiply]
    · simp only [meaning_multiply]
      ring
  multiply_add := by
    apply (canonical_multiply _ _).eq_of_meaning_eq ((canonical_multiply _ _).add _)
    · rw [note_multiply, note_add]
    · simp only [meaning_multiply, meaning_add]
      ring
  add_multiply := by
    apply (canonical_multiply _ _).eq_of_meaning_eq ((canonical_multiply _ _).add _)
    · rw [note_multiply, note_add]
    · simp only [meaning_multiply, meaning_add]
      ring
  zero_add := by
    apply (Canonical.zero.add p).eq_of_meaning_eq canonicalP.withoutNote
    · exact note_add zero p
    · rw [meaning_add, meaning_zero, meaning_withoutNote]
      ring
  add_zero := rfl
  one_multiply := by
    apply (canonical_multiply _ _).eq_of_meaning_eq canonicalP.withoutNote
    · exact note_multiply (constant 1) p
    · rw [meaning_multiply, meaning_constant, meaning_withoutNote,
        MvPolynomial.C_1]
      ring
  multiply_one := by
    apply (canonical_multiply _ _).eq_of_meaning_eq canonicalP.withoutNote
    · exact note_multiply p (constant 1)
    · rw [meaning_multiply, meaning_constant, meaning_withoutNote,
        MvPolynomial.C_1]
      ring
  add_negate := by
    apply (canonicalP.add p.negate).eq_of_meaning_eq .zero
    · exact note_add p p.negate
    · rw [meaning_add, meaning_negate, meaning_zero]
      ring
  subtract_self := by
    apply (canonicalP.subtract p).eq_of_meaning_eq .zero
    · exact note_subtract p p
    · rw [meaning_subtract, meaning_zero]
      ring
  subtract_add := by
    apply ((canonicalP.subtract q).add q).eq_of_meaning_eq canonicalP.withoutNote
    · exact note_add (p.subtract q) q
    · rw [meaning_add, meaning_subtract, meaning_withoutNote]
      ring
  coefficient_multiply := coefficient_multiply_eq_convolution p q
  stored_multiply := by
    intro monomial
    rw [← coefficient_multiply_eq_convolution]
    constructor
    · rintro ⟨k, member⟩
      obtain ⟨rfl, notZero⟩ :=
        ((canonical_multiply p q).mem_terms_iff rfl monomial k).mp member
      exact notZero
    · intro notZero
      exact ⟨_, ((canonical_multiply p q).mem_terms_iff rfl monomial _).mpr
        ⟨rfl, notZero⟩⟩

/-- The laws at two conjugate binomials, whose product cancels in the middle. -/
theorem commutativeRingLaws_conjugates :
    CommutativeRingLaws
      (ofTerms [(.ofSymbols ["x"], 1), (.ofSymbols ["y"], 1)])
      (ofTerms [(.ofSymbols ["x"], 1), (.ofSymbols ["y"], -1)])
      (constant 2) :=
  commutativeRingLaws (canonical_ofTerms _) (canonical_ofTerms _)

end Polynomial
end PolyMatrix
