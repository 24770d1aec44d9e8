import PolyMatrix.Polynomial.Canonical
import PolyMatrix.Proofs.Monomial.Admissible

/-!
# Summands in order

Summands that stand in monomial order are added up by putting one behind the other.  None of
them meets another one, so nothing cancels and nothing moves, and the sum stores exactly those
that are worth keeping.
-/

namespace PolyMatrix
namespace Polynomial

variable {K : Type} [Coefficient K]

/-- The summands whose coefficients are worth keeping. -/
def keptTerms (terms : List (Monomial × K)) : List (Monomial × K) :=
  terms.filter fun term => !Coefficient.isNegligible term.2

@[simp] theorem keptTerms_nil : keptTerms ([] : List (Monomial × K)) = [] :=
  rfl

theorem keptTerms_cons_of_isNegligible
    {head : Monomial × K}
    (negligible : Coefficient.isNegligible head.2 = true)
    (rest : List (Monomial × K)) : keptTerms (head :: rest) = keptTerms rest :=
  List.filter_cons_of_neg (by simp [negligible])

theorem keptTerms_cons_of_significant
    {head : Monomial × K}
    (significant : Coefficient.isNegligible head.2 = false)
    (rest : List (Monomial × K)) : keptTerms (head :: rest) = head :: keptTerms rest :=
  List.filter_cons_of_pos (by simp [significant])

theorem keptTerms_of_significant
    {terms : List (Monomial × K)}
    (significant : ∀ term ∈ terms, Coefficient.isNegligible term.2 = false) :
    keptTerms terms = terms :=
  List.filter_eq_self.mpr fun term member => by rw [significant term member, Bool.not_false]

variable [Add K]

/-- Summands that are not worth keeping add nothing. -/
theorem foldl_accumulate_keptTerms (terms : List (Monomial × K)) (p : Polynomial K) :
    (keptTerms terms).foldl (fun sum term => sum.accumulate term.1 term.2) p =
      terms.foldl (fun sum term => sum.accumulate term.1 term.2) p := by
  induction terms generalizing p with
  | nil => rfl
  | cons head rest inductionHypothesis =>
      cases size : Coefficient.isNegligible head.2 with
      | true =>
          rw [keptTerms_cons_of_isNegligible size, inductionHypothesis, List.foldl_cons,
            accumulate_of_isNegligible p head.1 size]
      | false =>
          rw [keptTerms_cons_of_significant size, List.foldl_cons, inductionHypothesis,
            List.foldl_cons]

/-- A monomial that comes after all others is put at the end. -/
theorem insertTerm_of_forall_precedes
    {monomial : Monomial}
    {k : K}
    {terms : List (Monomial × K)}
    (before : ∀ term ∈ terms, term.1.precedes monomial = true) :
    insertTerm monomial k terms = terms ++ [(monomial, k)] := by
  induction terms with
  | nil => rfl
  | cons head rest inductionHypothesis =>
      rw [List.forall_mem_cons] at before
      have different : monomial ≠ head.1 := (Monomial.ne_of_precedes before.1).symm
      have notBefore : monomial.precedes head.1 = false :=
        Monomial.precedes_asymm before.1
      rw [insertTerm, if_neg different, notBefore, if_neg Bool.false_ne_true,
        inductionHypothesis before.2, List.cons_append]

/-- Adding summands in order, all of them after what is there, puts those that are worth
keeping at the end. -/
theorem foldl_accumulate_of_descending
    {terms front : List (Monomial × K)}
    (descending : (front ++ terms).Pairwise fun earlier later =>
      earlier.1.precedes later.1 = true)
    (note : Option String) :
    terms.foldl (fun (sum : Polynomial K) term => sum.accumulate term.1 term.2)
        ⟨front, note⟩ = ⟨front ++ keptTerms terms, note⟩ := by
  induction terms generalizing front with
  | nil => rw [keptTerms_nil, List.foldl_nil, List.append_nil]
  | cons head rest inductionHypothesis =>
      rw [List.foldl_cons]
      cases size : Coefficient.isNegligible head.2 with
      | true =>
          have without := descending.sublist
            ((List.sublist_cons_self head rest).append_left front)
          rw [accumulate_of_isNegligible _ _ size, inductionHypothesis without,
            keptTerms_cons_of_isNegligible size]
      | false =>
          have before : ∀ term ∈ front, term.1.precedes head.1 = true :=
            fun term member =>
              (List.pairwise_append.mp descending).2.2 term member head List.mem_cons_self
          have added : Polynomial.accumulate ⟨front, note⟩ head.1 head.2 =
              ⟨front ++ [head], note⟩ := by
            rw [accumulate, size, if_neg Bool.false_ne_true,
              insertTerm_of_forall_precedes before]
          rw [List.append_cons] at descending
          rw [added, inductionHypothesis descending, keptTerms_cons_of_significant size,
            ← List.append_cons]

/-- Summands in order add up to those that are worth keeping. -/
theorem ofTerms_of_descending
    {terms : List (Monomial × K)}
    (descending : terms.Pairwise fun earlier later => earlier.1.precedes later.1 = true) :
    ofTerms terms = ⟨keptTerms terms, none⟩ := by
  have behindNothing : ([] ++ terms).Pairwise fun (earlier later : Monomial × K) =>
      earlier.1.precedes later.1 = true := descending
  exact foldl_accumulate_of_descending behindNothing none

/-- A canonical polynomial is the sum of its summands. -/
theorem Canonical.ofTerms_terms
    {p : Polynomial K}
    (canonical : p.Canonical) : ofTerms p.terms = p.withoutNote := by
  rw [ofTerms_of_descending canonical.descending,
    keptTerms_of_significant canonical.significant]
  rfl

end Polynomial
end PolyMatrix
