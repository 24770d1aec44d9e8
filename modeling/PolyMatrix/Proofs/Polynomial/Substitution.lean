import PolyMatrix.Polynomial.Substitution
import PolyMatrix.Proofs.Polynomial.Meaning

/-!
# What a substitution denotes

A substitution replaces, in the sum that a polynomial denotes, every summand that
the pattern divides by its quotient times the replacement.  Where the pattern and
its replacement have one value, so have the polynomial before and after.
-/

namespace PolyMatrix
namespace Polynomial

/-- What a stored summand becomes: its quotient by the pattern times the
replacement if the pattern divides it, and itself if not. -/
noncomputable def replaced
    (pattern : Monomial)
    (replacement : Polynomial ℤ)
    (term : Monomial × ℤ) : MvPolynomial String ℤ :=
  if pattern.exponents ≤ term.1.exponents then
    MvPolynomial.monomial (term.1.exponents - pattern.exponents) term.2 *
      replacement.meaning
  else term.1.scaled term.2

theorem replaced_of_divide?
    {pattern rest : Monomial}
    (replacement : Polynomial ℤ)
    {term : Monomial × ℤ}
    (divides : term.1.divide? pattern = some rest) :
    replaced pattern replacement term = rest.scaled term.2 * replacement.meaning := by
  rw [Monomial.divide?_eq_some_iff] at divides
  have difference : term.1.exponents - pattern.exponents = rest.exponents := by
    rw [← divides, add_tsub_cancel_right]
  rw [replaced, if_pos (divides ▸ le_add_self), difference, Monomial.scaled]

theorem replaced_of_divide?_eq_none
    {pattern : Monomial}
    (replacement : Polynomial ℤ)
    {term : Monomial × ℤ}
    (divides : term.1.divide? pattern = none) :
    replaced pattern replacement term = term.1.scaled term.2 := by
  rw [Monomial.divide?_eq_none_iff, Monomial.divides_iff] at divides
  rw [replaced, if_neg divides]

@[simp] theorem meaning_substituteTerm
    (pattern : Monomial)
    (replacement sum : Polynomial ℤ)
    (term : Monomial × ℤ) :
    (substituteTerm pattern replacement sum term).meaning =
      sum.meaning + replaced pattern replacement term := by
  unfold substituteTerm
  split
  · rename_i rest divides
    rw [meaning_accumulateScaled, meaning_multiplyTerm,
      replaced_of_divide? replacement divides]
    change _ + _ * MvPolynomial.C 1 = _
    rw [MvPolynomial.C_1, mul_one, mul_comm replacement.meaning]
  · rename_i divides
    rw [meaning_accumulate, replaced_of_divide?_eq_none replacement divides]

theorem canonical_substituteTerm
    {K : Type} [Add K] [Mul K] [Coefficient K]
    (pattern : Monomial)
    (replacement : Polynomial K)
    (sum : Polynomial K)
    (term : Monomial × K)
    (canonical : sum.Canonical) :
    (substituteTerm pattern replacement sum term).Canonical := by
  unfold substituteTerm
  split
  · exact canonical.accumulateScaled _ _
  · exact canonical.accumulate _ _

theorem canonical_of_substitute?
    {K : Type} [Add K] [Mul K] [Coefficient K]
    {p q replacement : Polynomial K}
    {pattern : Monomial}
    (substituted : p.substitute? pattern replacement = some q) : q.Canonical := by
  unfold substitute? at substituted
  split at substituted
  · obtain rfl := Option.some.inj substituted
    exact (Canonical.zero.foldl (canonical_substituteTerm pattern replacement)
      p.terms).withNote _
  · cases substituted

theorem meaning_of_substitute?
    {p q replacement : Polynomial ℤ}
    {pattern : Monomial}
    (substituted : p.substitute? pattern replacement = some q) :
    q.meaning = (p.terms.map (replaced pattern replacement)).sum := by
  unfold substitute? at substituted
  split at substituted
  · obtain rfl := Option.some.inj substituted
    rw [meaning_withNote,
      measure_foldl meaning (meaning_substituteTerm pattern replacement),
      meaning_zero, zero_add]
  · cases substituted

/-! ## Values

A value is taken by any homomorphism of rings: an assignment of numbers to the
symbols, or none at all. -/

section Values

variable {R : Type} [CommRing R] (value : MvPolynomial String ℤ →+* R)

/-- A replaced summand keeps its value. -/
theorem value_replaced
    {pattern : Monomial}
    {replacement : Polynomial ℤ}
    (sameValue : value (pattern.scaled 1) = value replacement.meaning)
    (term : Monomial × ℤ) :
    value (replaced pattern replacement term) = value (term.1.scaled term.2) := by
  unfold replaced
  split
  · rename_i divides
    rw [map_mul, ← sameValue, ← map_mul, Monomial.scaled, MvPolynomial.monomial_mul,
      tsub_add_cancel_of_le divides, mul_one, Monomial.scaled]
  · rfl

theorem value_of_substitute?
    {p q replacement : Polynomial ℤ}
    {pattern : Monomial}
    (sameValue : value (pattern.scaled 1) = value replacement.meaning)
    (substituted : p.substitute? pattern replacement = some q) :
    value q.meaning = value p.meaning := by
  rw [meaning_of_substitute? substituted, meaning, map_list_sum, map_list_sum,
    List.map_map, List.map_map]
  congr 1
  exact List.map_congr_left fun term _ => value_replaced value sameValue term

end Values

end Polynomial
end PolyMatrix
