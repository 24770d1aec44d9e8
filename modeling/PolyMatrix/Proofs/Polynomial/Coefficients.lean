import Mathlib.Data.List.Perm.Basic
import PolyMatrix.Polynomial.Canonical

/-!
# Coefficients of a canonical polynomial

A canonical polynomial stores every monomial at most once, so what it stores can
be read off its coefficients.  Two canonical polynomials with the same
coefficients store the same, provided that zero is negligible.
-/

namespace PolyMatrix
namespace Polynomial

variable {K : Type}

theorem mem_terms_of_lookup
    {terms : List (Monomial × K)}
    {monomial : Monomial}
    {k : K}
    (found : terms.lookup monomial = some k) : (monomial, k) ∈ terms := by
  rw [List.lookup_eq_some_iff] at found
  obtain ⟨front, rest, split, _⟩ := found
  rw [split]
  exact List.mem_append_right front List.mem_cons_self

theorem lookup_of_mem_terms
    {terms : List (Monomial × K)}
    (descending : terms.Pairwise fun earlier later =>
      earlier.1.precedes later.1 = true)
    {monomial : Monomial}
    {k : K}
    (member : (monomial, k) ∈ terms) : terms.lookup monomial = some k := by
  induction terms with
  | nil => cases member
  | cons head rest inductionHypothesis =>
      have split := List.pairwise_cons.mp descending
      rcases List.mem_cons.mp member with rfl | member
      · exact List.lookup_cons_self
      · have different : monomial ≠ head.1 := (Monomial.ne_of_precedes (split.1 _ member)).symm
        rw [List.lookup_cons, beq_eq_false_iff_ne.mpr different]
        exact inductionHypothesis split.2 member

theorem lookup_cons_of_ne
    {head monomial : Monomial}
    (different : monomial ≠ head)
    (k : K)
    (rest : List (Monomial × K)) :
    ((head, k) :: rest).lookup monomial = rest.lookup monomial := by
  rw [List.lookup_cons, beq_eq_false_iff_ne.mpr different]

theorem lookup_of_forall_precedes
    {terms : List (Monomial × K)}
    {monomial : Monomial}
    (before : ∀ term ∈ terms, monomial.precedes term.1 = true) :
    terms.lookup monomial = none := by
  rw [List.lookup_eq_none_iff]
  intro term member
  rw [bne_iff_ne]
  exact Monomial.ne_of_precedes (before term member)

section Inserted

variable [Add K] [Coefficient K]

/-- An insertion changes the coefficient of no other monomial. -/
theorem lookup_insertTerm_of_ne
    {monomial other : Monomial}
    (different : other ≠ monomial)
    (k : K)
    (terms : List (Monomial × K)) :
    (insertTerm monomial k terms).lookup other = terms.lookup other := by
  induction terms with
  | nil => exact lookup_cons_of_ne different k []
  | cons term rest inductionHypothesis =>
      obtain ⟨head, stored⟩ := term
      unfold insertTerm
      split
      · rename_i same
        subst same
        rw [lookup_cons_of_ne different]
        split
        · rfl
        · exact lookup_cons_of_ne different _ rest
      · split
        · exact lookup_cons_of_ne different _ _
        · rw [List.lookup_cons, List.lookup_cons, inductionHypothesis]

/-- An insertion adds to the coefficient that is there, or is the first of its monomial. -/
theorem lookup_insertTerm_self
    (monomial : Monomial)
    (k : K)
    {terms : List (Monomial × K)}
    (descending : terms.Pairwise fun earlier later =>
      earlier.1.precedes later.1 = true) :
    (insertTerm monomial k terms).lookup monomial =
      match terms.lookup monomial with
      | some stored =>
          if Coefficient.isNegligible (stored + k) then none else some (stored + k)
      | none => some k := by
  induction terms with
  | nil => exact List.lookup_cons_self
  | cons term rest inductionHypothesis =>
      obtain ⟨head, stored⟩ := term
      have ordered := List.pairwise_cons.mp descending
      unfold insertTerm
      split
      · rename_i same
        subst same
        rw [List.lookup_cons_self]
        split
        · rename_i negligible
          rw [lookup_of_forall_precedes ordered.1]
          exact (if_pos negligible).symm
        · rename_i significant
          rw [List.lookup_cons_self]
          exact (if_neg significant).symm
      · rename_i different
        rw [lookup_cons_of_ne different]
        split
        · rename_i before
          have beforeRest : ∀ term ∈ rest, monomial.precedes term.1 = true :=
            fun term member => Monomial.precedes_trans before (ordered.1 term member)
          rw [List.lookup_cons_self, lookup_of_forall_precedes beforeRest]
        · rw [lookup_cons_of_ne different]
          exact inductionHypothesis ordered.2

end Inserted

section Stored

variable [Coefficient K] {p q : Polynomial K}

theorem Canonical.coefficient_of_mem
    (canonical : p.Canonical)
    {monomial : Monomial}
    {k : K}
    (member : (monomial, k) ∈ p.terms) : p.coefficient monomial = k := by
  rw [coefficient, lookup_of_mem_terms canonical.descending member,
    Option.getD_some]

/-- A canonical polynomial stores a monomial exactly with its coefficient, and
only if that is not zero. -/
theorem Canonical.mem_terms_iff
    (canonical : p.Canonical)
    (zeroNegligible : Coefficient.isNegligible (Coefficient.zero : K) = true)
    (monomial : Monomial)
    (k : K) :
    (monomial, k) ∈ p.terms ↔
      p.coefficient monomial = k ∧ k ≠ Coefficient.zero := by
  constructor
  · intro member
    refine ⟨canonical.coefficient_of_mem member, ?_⟩
    rintro rfl
    have kept := canonical.significant _ member
    rw [zeroNegligible] at kept
    cases kept
  · rintro ⟨rfl, notZero⟩
    cases found : p.terms.lookup monomial with
    | none => exact absurd (by rw [coefficient, found, Option.getD_none]) notZero
    | some k =>
        rw [coefficient, found, Option.getD_some]
        exact mem_terms_of_lookup found

theorem Canonical.nodup_terms (canonical : p.Canonical) : p.terms.Nodup := by
  refine canonical.descending.imp ?_
  intro earlier later before same
  exact Monomial.ne_of_precedes before (congrArg Prod.fst same)

/-- Canonical polynomials with the same coefficients store the same. -/
theorem Canonical.terms_eq
    (canonicalP : p.Canonical)
    (canonicalQ : q.Canonical)
    (zeroNegligible : Coefficient.isNegligible (Coefficient.zero : K) = true)
    (same : ∀ monomial, p.coefficient monomial = q.coefficient monomial) :
    p.terms = q.terms := by
  have perm : p.terms.Perm q.terms := by
    rw [List.perm_ext_iff_of_nodup canonicalP.nodup_terms canonicalQ.nodup_terms]
    rintro ⟨monomial, k⟩
    rw [canonicalP.mem_terms_iff zeroNegligible,
      canonicalQ.mem_terms_iff zeroNegligible, same]
  refine perm.eq_of_pairwise ?_ canonicalP.descending canonicalQ.descending
  intro first second _ _ before after
  rw [Monomial.precedes_asymm before] at after
  cases after

end Stored

/-- A polynomial without a remark is determined by what it stores. -/
theorem eq_of_terms_eq
    {p q : Polynomial K}
    (sameTerms : p.terms = q.terms)
    (sameNote : p.note = q.note) : p = q := by
  cases p
  cases q
  cases sameTerms
  cases sameNote
  rfl

end Polynomial
end PolyMatrix
