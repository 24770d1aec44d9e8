import PolyMatrix.Monomial.Order
import PolyMatrix.Polynomial.Basic

/-!
# Canonical polynomials

Adding a scaled monomial keeps a polynomial canonical, whatever the arithmetic of
the coefficients is.  So every polynomial that is built from nothing by adding
scaled monomials is canonical.
-/

namespace PolyMatrix
namespace Polynomial

variable {K : Type} [Add K] [Coefficient K]

/-- The monomials after an insertion are those from before and the inserted one. -/
theorem eq_or_mem_of_mem_insertTerm
    {monomial : Monomial}
    {k : K}
    {terms : List (Monomial × K)}
    {term : Monomial × K}
    (member : term ∈ insertTerm monomial k terms) :
    term.1 = monomial ∨ term ∈ terms := by
  induction terms with
  | nil =>
      simp only [insertTerm, List.mem_singleton] at member
      exact .inl (by rw [member])
  | cons head rest inductionHypothesis =>
      unfold insertTerm at member
      split at member
      · rename_i same
        split at member
        · exact .inr (List.mem_cons_of_mem _ member)
        · rcases List.mem_cons.mp member with rfl | member
          · exact .inl same.symm
          · exact .inr (List.mem_cons_of_mem _ member)
      · split at member
        · rcases List.mem_cons.mp member with rfl | member
          · exact .inl rfl
          · exact .inr member
        · rcases List.mem_cons.mp member with rfl | member
          · exact .inr List.mem_cons_self
          · rcases inductionHypothesis member with same | member
            · exact .inl same
            · exact .inr (List.mem_cons_of_mem _ member)

/-- An insertion keeps monomial order. -/
theorem descending_insertTerm
    (monomial : Monomial)
    (k : K)
    {terms : List (Monomial × K)}
    (descending : terms.Pairwise fun earlier later =>
      earlier.1.precedes later.1 = true) :
    (insertTerm monomial k terms).Pairwise fun earlier later =>
      earlier.1.precedes later.1 = true := by
  induction terms with
  | nil => simp [insertTerm]
  | cons head rest inductionHypothesis =>
      have split := List.pairwise_cons.mp descending
      unfold insertTerm
      split
      · split
        · exact split.2
        · exact List.pairwise_cons.mpr split
      · rename_i different
        split
        · rename_i before
          refine List.pairwise_cons.mpr ⟨?_, descending⟩
          intro other member
          rcases List.mem_cons.mp member with rfl | member
          · exact before
          · exact Monomial.precedes_trans before (split.1 other member)
        · rename_i notBefore
          refine List.pairwise_cons.mpr ⟨?_, inductionHypothesis split.2⟩
          intro other member
          rcases eq_or_mem_of_mem_insertTerm member with same | member
          · rw [same]
            exact Monomial.precedes_of_ne different (by simpa using notBefore)
          · exact split.1 other member

/-- An insertion of a coefficient that is worth keeping leaves none that is not. -/
theorem significant_insertTerm
    (monomial : Monomial)
    {k : K}
    (keep : Coefficient.isNegligible k = false)
    {terms : List (Monomial × K)}
    (significant : ∀ term ∈ terms, Coefficient.isNegligible term.2 = false) :
    ∀ term ∈ insertTerm monomial k terms, Coefficient.isNegligible term.2 = false := by
  induction terms with
  | nil => simpa [insertTerm] using keep
  | cons head rest inductionHypothesis =>
      have inRest : ∀ term ∈ rest, Coefficient.isNegligible term.2 = false :=
        fun term member => significant term (List.mem_cons_of_mem _ member)
      intro term member
      unfold insertTerm at member
      split at member
      · split at member
        · exact inRest term member
        · rename_i sum
          rcases List.mem_cons.mp member with rfl | member
          · simpa using sum
          · exact inRest term member
      · split at member
        · rcases List.mem_cons.mp member with rfl | member
          · exact keep
          · exact significant term member
        · rcases List.mem_cons.mp member with rfl | member
          · exact significant _ List.mem_cons_self
          · exact inductionHypothesis inRest term member

/-- Adding a scaled monomial keeps a polynomial canonical. -/
theorem Canonical.accumulate
    {p : Polynomial K}
    (canonical : p.Canonical)
    (monomial : Monomial)
    (k : K) : (p.accumulate monomial k).Canonical := by
  unfold Polynomial.accumulate
  split
  · exact canonical
  · rename_i keep
    exact ⟨descending_insertTerm monomial k canonical.descending,
      significant_insertTerm monomial (by simpa using keep) canonical.significant⟩

/-- Adding scaled monomials one after another keeps a polynomial canonical. -/
theorem Canonical.foldl_accumulate
    {α : Type}
    (monomial : α → Monomial)
    (k : α → K)
    (items : List α)
    {p : Polynomial K}
    (canonical : p.Canonical) :
    (items.foldl (fun sum item => sum.accumulate (monomial item) (k item))
      p).Canonical := by
  induction items generalizing p with
  | nil => exact canonical
  | cons item rest inductionHypothesis =>
      exact inductionHypothesis (canonical.accumulate (monomial item) (k item))

/-- A sum of scaled monomials is canonical. -/
theorem canonical_ofTerms
    (terms : List (Monomial × K)) : (ofTerms terms).Canonical :=
  Canonical.foldl_accumulate Prod.fst Prod.snd terms .zero

end Polynomial
end PolyMatrix
