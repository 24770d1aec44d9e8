import Mathlib.Algebra.Order.Field.Rat
import PolyMatrix.Coefficient.Exact
import PolyMatrix.Proofs.Polynomial.Construction
import PolyMatrix.Proofs.Polynomial.InOrder

/-!
# Neutral steps

A canonical polynomial that is rebuilt from its own summands is the same again.  So
adding it to nothing and multiplying it by one change nothing but the remark, where
one is neutral among the coefficients.
-/

namespace PolyMatrix

/-- One is worth keeping, and neutral on the right. -/
class Coefficient.Unital (K : Type) [Mul K] [Coefficient K] : Prop where
  mul_one : ∀ k : K, k * Coefficient.one = k
  significant_one : Coefficient.isNegligible (Coefficient.one : K) = false

instance : Coefficient.Unital ℤ where
  mul_one := Int.mul_one
  significant_one := rfl

instance : Coefficient.Unital ℚ where
  mul_one := Rat.mul_one
  significant_one := by decide +kernel

namespace Polynomial

variable {K : Type} [Coefficient K] [Add K]

/-! ## One as a factor -/

section Unital

variable [Mul K] [Coefficient.Unital K]

theorem Canonical.accumulateScaled_one
    {p : Polynomial K}
    (canonical : p.Canonical) :
    Polynomial.accumulateScaled .zero p Coefficient.one = p.withoutNote := by
  unfold Polynomial.accumulateScaled
  simp only [Coefficient.Unital.mul_one]
  exact canonical.ofTerms_terms

theorem Canonical.scale_one
    {p : Polynomial K}
    (canonical : p.Canonical) : p.scale Coefficient.one = p.withoutNote := by
  rw [scale, multiplyTerm, Coefficient.Unital.significant_one,
    if_neg Bool.false_ne_true]
  simp only [Coefficient.Unital.mul_one]
  exact canonical.ofTerms_terms

theorem ofTerm_scale_one (monomial : Monomial) (k : K) :
    (ofTerm monomial k).scale Coefficient.one = ofTerm monomial k := by
  rw [(canonical_ofTerm monomial k).scale_one]
  exact eq_of_terms_eq rfl (note_accumulate zero monomial k).symm

end Unital

/-! ## Single summands -/

theorem ofTerm_of_significant
    (monomial : Monomial)
    {k : K}
    (significant : Coefficient.isNegligible k = false) :
    ofTerm monomial k = ⟨[(monomial, k)], none⟩ := by
  rw [ofTerm, accumulate, significant, if_neg Bool.false_ne_true]
  rfl

/-- The product of two single summands is one again. -/
theorem ofTerm_multiply_ofTerm
    [Mul K]
    (left right : Monomial)
    {j k : K}
    (significantLeft : Coefficient.isNegligible j = false)
    (significantRight : Coefficient.isNegligible k = false) :
    (ofTerm left j).multiply (ofTerm right k) =
      ofTerm (left.multiply right) (j * k) := by
  rw [ofTerm_of_significant left significantLeft,
    ofTerm_of_significant right significantRight]
  rfl

/-- Adding a multiple of a single summand adds a summand. -/
theorem accumulateScaled_ofTerm
    [Mul K]
    (p : Polynomial K)
    (monomial : Monomial)
    {j : K}
    (k : K)
    (significant : Coefficient.isNegligible j = false) :
    p.accumulateScaled (ofTerm monomial j) k = p.accumulate monomial (j * k) := by
  rw [ofTerm_of_significant monomial significant]
  rfl

end Polynomial
end PolyMatrix
