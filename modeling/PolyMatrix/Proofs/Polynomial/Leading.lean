import Mathlib.Algebra.MvPolynomial.CommRing
import PolyMatrix.Proofs.Monomial.Admissible
import PolyMatrix.Proofs.Polynomial.Meaning

/-!
# Leading terms

The leading term of what a polynomial denotes is the one that monomial order puts in front.
As the order is multiplicative and integers have no zero divisors, nothing cancels at the
top of a product: its leading term is the product of the leading terms.  In a difference of
two polynomials with one leading term exactly that term is gone.
-/

namespace PolyMatrix

namespace Monomial

/-- At most as high as another monomial in monomial order: the same, or behind it. -/
def AtMost (monomial bound : Monomial) : Prop :=
  monomial = bound ∨ bound.precedes monomial = true

theorem AtMost.trans
    {first second third : Monomial}
    (below : first.AtMost second)
    (above : second.AtMost third) : first.AtMost third := by
  rcases below with rfl | before
  · exact above
  · rcases above with rfl | before'
    · exact .inr before
    · exact .inr (precedes_trans before' before)

/-- A product of monomials is at most the product of their bounds, and it is only that product
if both are their bounds. -/
theorem AtMost.multiply
    {left leftBound right rightBound : Monomial}
    (leftBelow : left.AtMost leftBound)
    (rightBelow : right.AtMost rightBound) :
    left = leftBound ∧ right = rightBound ∨
      (leftBound.multiply rightBound).precedes (left.multiply right) = true := by
  rcases leftBelow with rfl | leftBefore
  · rcases rightBelow with rfl | rightBefore
    · exact .inl ⟨rfl, rfl⟩
    · rw [multiply_comm left rightBound, multiply_comm left right]
      exact .inr (precedes_multiply rightBefore left)
  · have atLeft := precedes_multiply leftBefore rightBound
    rcases rightBelow with rfl | rightBefore
    · exact .inr atLeft
    · rw [multiply_comm left right]
      rw [multiply_comm left rightBound] at atLeft
      exact .inr (precedes_trans atLeft (precedes_multiply rightBefore left))

end Monomial

namespace Polynomial

open MvPolynomial (coeff)

/-- The monomial of `f` that monomial order puts in front, with its coefficient. -/
structure Leads (f : MvPolynomial String ℤ) (monomial : Monomial) (k : ℤ) : Prop where
  coeff_eq : coeff monomial.exponents f = k
  ne_zero : k ≠ 0
  atMost : ∀ other : Monomial, coeff other.exponents f ≠ 0 → other.AtMost monomial

variable {f g : MvPolynomial String ℤ} {m n : Monomial} {j k : ℤ}

theorem Leads.ne (leads : Leads f m k) : f ≠ 0 := by
  rintro rfl
  exact leads.ne_zero (leads.coeff_eq ▸ MvPolynomial.coeff_zero _)

/-- There is only one leading term. -/
theorem Leads.unique (first : Leads f m j) (second : Leads f n k) : m = n ∧ j = k := by
  have same : m = n := by
    have below := second.atMost m (by rw [first.coeff_eq]; exact first.ne_zero)
    have above := first.atMost n (by rw [second.coeff_eq]; exact second.ne_zero)
    rcases below with same | before
    · exact same
    · rcases above with same | before'
      · exact same.symm
      · rw [Monomial.precedes_asymm before] at before'
        cases before'
  subst same
  exact ⟨rfl, first.coeff_eq.symm.trans second.coeff_eq⟩

theorem leads_scaled (monomial : Monomial) (notZero : k ≠ 0) :
    Leads (monomial.scaled k) monomial k where
  coeff_eq := monomial.coeff_scaled_self k
  ne_zero := notZero
  atMost other present := by
    by_cases same : monomial = other
    · exact .inl same.symm
    · exact absurd (Monomial.coeff_scaled_of_ne same) present

theorem exists_leading
    {p : Polynomial ℤ}
    (stored : p.terms ≠ []) : ∃ head, p.leading? = some head := by
  obtain ⟨head, rest, split⟩ := List.exists_cons_of_ne_nil stored
  exact ⟨head, by rw [leading?, split, List.head?_cons]⟩

theorem meaning_of_no_leading
    {p : Polynomial ℤ}
    (nothing : p.leading? = none) : p.meaning = 0 := by
  rw [meaning, List.head?_eq_none_iff.mp nothing]
  rfl

/-- Whether a monomial is at most as high as the leading one of a polynomial. -/
def Dominates (p : Polynomial ℤ) (monomial : Monomial) : Prop :=
  ∃ head ∈ p.leading?, monomial.AtMost head.1

/-- The first stored term of a canonical polynomial is the leading one. -/
theorem Canonical.leads
    {p : Polynomial ℤ}
    (canonical : p.Canonical)
    (leading : p.leading? = some (m, k)) : Leads p.meaning m k := by
  obtain ⟨rest, stored⟩ := List.head?_eq_some_iff.mp leading
  have front : (m, k) ∈ p.terms := stored ▸ List.mem_cons_self
  obtain ⟨coefficient, notZero⟩ := (canonical.mem_terms_iff rfl m k).mp front
  refine ⟨(canonical.coeff_meaning m).trans coefficient, notZero, ?_⟩
  intro other present
  rw [canonical.coeff_meaning] at present
  have member := (canonical.mem_terms_iff rfl other _).mpr ⟨rfl, present⟩
  have descending := canonical.descending
  rw [stored] at member descending
  rcases List.mem_cons.mp member with same | behind
  · exact .inl (congrArg Prod.fst same)
  · exact .inr ((List.pairwise_cons.mp descending).1 _ behind)

theorem Canonical.coeff_ne_zero_of_mem
    {p : Polynomial ℤ}
    (canonical : p.Canonical)
    {term : Monomial × ℤ}
    (member : term ∈ p.terms) : coeff term.1.exponents p.meaning ≠ 0 := by
  obtain ⟨coefficient, notZero⟩ := (canonical.mem_terms_iff rfl term.1 term.2).mp member
  rw [canonical.coeff_meaning, coefficient]
  exact notZero

theorem Canonical.dominates_of_mem
    {p : Polynomial ℤ}
    (canonical : p.Canonical)
    {term : Monomial × ℤ}
    (member : term ∈ p.terms) : p.Dominates term.1 := by
  obtain ⟨head, leading⟩ := exists_leading (List.ne_nil_of_mem member)
  exact ⟨head, leading,
    (canonical.leads leading).atMost term.1 (canonical.coeff_ne_zero_of_mem member)⟩

/-- The monomials of a product are products of monomials of the factors. -/
theorem exists_of_coeff_mul_ne_zero
    {monomial : Monomial}
    (present : coeff monomial.exponents (f * g) ≠ 0) :
    ∃ left right : Monomial, left.multiply right = monomial ∧
      coeff left.exponents f ≠ 0 ∧ coeff right.exponents g ≠ 0 := by
  rw [MvPolynomial.coeff_mul] at present
  obtain ⟨⟨u, v⟩, member, notZero⟩ := Finset.exists_ne_zero_of_sum_ne_zero present
  obtain ⟨left, rfl⟩ := Monomial.exponents_surjective u
  obtain ⟨right, rfl⟩ := Monomial.exponents_surjective v
  refine ⟨left, right, ?_, left_ne_zero_of_mul notZero, right_ne_zero_of_mul notZero⟩
  rw [← Monomial.exponents_inj, Monomial.exponents_multiply]
  exact Finset.HasAntidiagonal.mem_antidiagonal.mp member

/-- The leading term of a product is the product of the leading terms. -/
theorem Leads.mul (left : Leads f m j) (right : Leads g n k) :
    Leads (f * g) (m.multiply n) (j * k) where
  coeff_eq := by
    rw [MvPolynomial.coeff_mul,
      Finset.sum_eq_single (m.exponents, n.exponents), left.coeff_eq, right.coeff_eq]
    · -- Any other pair with this product has a factor that one of the operands lacks.
      rintro ⟨u, v⟩ member different
      obtain ⟨first, rfl⟩ := Monomial.exponents_surjective u
      obtain ⟨second, rfl⟩ := Monomial.exponents_surjective v
      rw [Finset.HasAntidiagonal.mem_antidiagonal, ← Monomial.exponents_multiply,
        Monomial.exponents_inj] at member
      by_contra notZero
      rcases (left.atMost first (left_ne_zero_of_mul notZero)).multiply
        (right.atMost second (right_ne_zero_of_mul notZero)) with ⟨rfl, rfl⟩ | behind
      · exact different rfl
      · exact Monomial.ne_of_precedes behind member.symm
    · intro absent
      rw [Finset.HasAntidiagonal.mem_antidiagonal, Monomial.exponents_multiply] at absent
      exact absurd rfl absent
  ne_zero := mul_ne_zero left.ne_zero right.ne_zero
  atMost other present := by
    obtain ⟨first, second, rfl, inLeft, inRight⟩ := exists_of_coeff_mul_ne_zero present
    rcases (left.atMost first inLeft).multiply (right.atMost second inRight) with
      ⟨rfl, rfl⟩ | behind
    · exact .inl rfl
    · exact .inr behind

/-- A difference of two polynomials with one leading term has its terms behind it. -/
theorem Leads.precedes_of_sub
    (left : Leads f m k)
    (right : Leads g m k)
    {other : Monomial}
    (present : coeff other.exponents (f - g) ≠ 0) : m.precedes other = true := by
  rw [MvPolynomial.coeff_sub] at present
  have inOne : other.AtMost m := by
    by_cases inLeft : coeff other.exponents f = 0
    · apply right.atMost
      intro inRight
      rw [inLeft, inRight, sub_zero] at present
      exact present rfl
    · exact left.atMost other inLeft
  rcases inOne with rfl | behind
  · rw [left.coeff_eq, right.coeff_eq, sub_self] at present
    exact absurd rfl present
  · exact behind

end Polynomial
end PolyMatrix
