import Mathlib.Algebra.MvPolynomial.PDeriv
import Mathlib.RingTheory.Derivation.Lie
import PolyMatrix.Proofs.Polynomial.Construction
import PolyMatrix.Proofs.Polynomial.RingLaws

/-!
# Deriving is a derivation

Taking one factor of a symbol out of a monomial and multiplying by how many there were is
what a partial derivative does with a monomial, so what a derived polynomial denotes is the
partial derivative of what the polynomial denotes.  Derived polynomials are canonical, hence
the product rule, the sum rule and the symmetry of second derivatives hold of what is stored:
the monomials that cancel on one side do so on the other.
-/

namespace PolyMatrix

namespace Monomial

/-- The partial derivative of a scaled monomial, in terms of its symbols. -/
theorem pderiv_scaled
    (symbol : String)
    (monomial : Monomial)
    (k : ℤ) :
    MvPolynomial.pderiv symbol (monomial.scaled k) =
      match monomial.erase? symbol with
      | some lowered => lowered.scaled (k * Coefficient.ofNat (monomial.count symbol))
      | none => 0 := by
  rw [scaled, MvPolynomial.pderiv_monomial, exponents_apply]
  cases erased : monomial.erase? symbol with
  | none =>
      rw [(erase?_eq_none_iff monomial symbol).mp erased, Nat.cast_zero, mul_zero,
        map_zero]
  | some lowered =>
      rw [erase?_eq_some_iff] at erased
      rw [← erased, add_tsub_cancel_right]
      rfl

end Monomial

namespace Polynomial

/-- What a derived polynomial denotes is the partial derivative. -/
@[simp] theorem meaning_derive (p : Polynomial ℤ) (symbol : String) :
    (p.derive symbol).meaning = MvPolynomial.pderiv symbol p.meaning := by
  have lowers : ∀ (sum : Polynomial ℤ) (term : Monomial × ℤ),
      meaning (match term.1.erase? symbol with
        | some lowered =>
            sum.accumulate lowered
              (term.2 * Coefficient.ofNat (term.1.count symbol))
        | none => sum) =
        sum.meaning + MvPolynomial.pderiv symbol (term.1.scaled term.2) := by
    intro sum term
    rw [Monomial.pderiv_scaled]
    cases term.1.erase? symbol with
    | none => exact (add_zero _).symm
    | some lowered => exact meaning_accumulate sum lowered _
  refine (measure_foldl meaning lowers p.terms zero).trans ?_
  rw [meaning_zero, zero_add, meaning, map_list_sum, List.map_map]
  rfl

/-- A derivative comes without a remark. -/
@[simp] theorem note_derive
    {K : Type} [Add K] [Mul K] [Coefficient K]
    (p : Polynomial K)
    (symbol : String) : (p.derive symbol).note = none := by
  refine note_foldl ?_ p.terms zero
  intro sum term
  split
  · exact note_accumulate _ _ _
  · rfl

/-- Partial derivatives in two symbols can be exchanged. -/
theorem pderiv_pderiv (first second : String) (value : MvPolynomial String ℤ) :
    MvPolynomial.pderiv first (MvPolynomial.pderiv second value) =
      MvPolynomial.pderiv second (MvPolynomial.pderiv first value) := by
  let partialIn (symbol : String) :
      Derivation ℤ (MvPolynomial String ℤ) (MvPolynomial String ℤ) :=
    MvPolynomial.pderiv symbol
  -- The commutator of two derivations is one, so the symbols decide whether it vanishes.
  have vanishes : ⁅partialIn first, partialIn second⁆ = 0 := by
    apply MvPolynomial.derivation_ext
    intro symbol
    rw [Derivation.commutator_apply]
    simp [partialIn, MvPolynomial.pderiv_X, Pi.single_apply, apply_ite]
  have exchanged := DFunLike.congr_fun vanishes value
  rw [Derivation.commutator_apply] at exchanged
  exact sub_eq_zero.mp exchanged

/-- The rules of differentiation for two polynomials and two symbols, about what is
stored. -/
structure DerivationLaws (p q : Polynomial ℤ) (first second : String) : Prop where
  derive_multiply : (p.multiply q).derive first =
    ((p.derive first).multiply q).add (p.multiply (q.derive first))
  derive_add : (p.add q).derive first = (p.derive first).add (q.derive first)
  derive_derive : (p.derive first).derive second = (p.derive second).derive first

/-- Deriving obeys the product rule and the sum rule, and the order of two derivatives makes
no difference. -/
theorem derivationLaws (p q : Polynomial ℤ) (first second : String) :
    DerivationLaws p q first second where
  derive_multiply := by
    apply (canonical_derive _ _).eq_of_meaning_eq ((canonical_multiply _ _).add _)
    · rw [note_derive, note_add]
    · simp only [meaning_derive, meaning_multiply, meaning_add]
      exact MvPolynomial.pderiv_mul
  derive_add := by
    apply (canonical_derive _ _).eq_of_meaning_eq ((canonical_derive _ _).add _)
    · rw [note_derive, note_add]
    · simp only [meaning_derive, meaning_add]
      exact map_add _ _ _
  derive_derive := by
    apply (canonical_derive _ _).eq_of_meaning_eq (canonical_derive _ _)
    · rw [note_derive, note_derive]
    · simp only [meaning_derive]
      exact pderiv_pderiv second first p.meaning

end Polynomial
end PolyMatrix
