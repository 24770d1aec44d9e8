import PolyMatrix.Proofs.Coefficient.Rational
import PolyMatrix.Proofs.Polynomial.CanonicalArithmetic
import PolyMatrix.Proofs.Polynomial.Coefficients

/-!
# The cost of dropping

Adding a scaled monomial changes one coefficient, and that by a step of its own: a negligible
contribution is ignored, and a negligible sum becomes zero.  A coefficient of a sum is
therefore what these steps make of the contributions to its monomial, in their order, whatever
comes in between.  Each step is off by less than the tolerance and never by more than once, so
a coefficient is off by less than the tolerance for each contribution, however often it
vanishes and comes back.
-/

namespace PolyMatrix
namespace Polynomial

/-! ## The coefficient of one monomial -/

/-- A coefficient after a contribution to its monomial. -/
def contribute (sum contribution : ℚ) : ℚ :=
  if Coefficient.isNegligible contribution then sum
  else if Coefficient.isNegligible (sum + contribution) then 0
  else sum + contribution

/-- The coefficients that are listed for a monomial, in order. -/
def contributions (terms : List (Monomial × ℚ)) (monomial : Monomial) : List ℚ :=
  (terms.filter fun term => term.1 = monomial).map Prod.snd

theorem contributions_cons_self
    (monomial : Monomial)
    (k : ℚ)
    (rest : List (Monomial × ℚ)) :
    contributions ((monomial, k) :: rest) monomial = k :: contributions rest monomial := by
  simp [contributions]

theorem contributions_cons_of_ne
    {head monomial : Monomial}
    (different : head ≠ monomial)
    (k : ℚ)
    (rest : List (Monomial × ℚ)) :
    contributions ((head, k) :: rest) monomial = contributions rest monomial := by
  simp [contributions, different]

/-- Summands in order contribute to a monomial no more than once. -/
theorem contributions_of_mem
    {terms : List (Monomial × ℚ)}
    (descending : terms.Pairwise fun earlier later =>
      earlier.1.precedes later.1 = true)
    {monomial : Monomial}
    {k : ℚ}
    (member : (monomial, k) ∈ terms) : contributions terms monomial = [k] := by
  induction terms with
  | nil => cases member
  | cons term rest inductionHypothesis =>
      obtain ⟨head, stored⟩ := term
      have ordered := List.pairwise_cons.mp descending
      rcases List.mem_cons.mp member with same | inRest
      · obtain ⟨rfl, rfl⟩ := Prod.mk.inj same
        have absent : contributions rest monomial = [] := by
          rw [contributions, List.map_eq_nil_iff, List.filter_eq_nil_iff]
          intro term inRest
          rw [decide_eq_true_eq]
          exact (Monomial.ne_of_precedes (ordered.1 term inRest)).symm
        rw [contributions_cons_self, absent]
      · have different : head ≠ monomial := Monomial.ne_of_precedes (ordered.1 _ inRest)
        rw [contributions_cons_of_ne different, inductionHypothesis ordered.2 inRest]

theorem coefficient_accumulate_of_ne
    (p : Polynomial ℚ)
    {monomial other : Monomial}
    (different : monomial ≠ other)
    (k : ℚ) : (p.accumulate monomial k).coefficient other = p.coefficient other := by
  unfold accumulate
  split
  · rfl
  · rw [coefficient, coefficient, lookup_insertTerm_of_ne different.symm]

/-- Adding a scaled monomial is a contribution to its coefficient. -/
theorem Canonical.coefficient_accumulate_self
    {p : Polynomial ℚ}
    (canonical : p.Canonical)
    (monomial : Monomial)
    (k : ℚ) :
    (p.accumulate monomial k).coefficient monomial =
      contribute (p.coefficient monomial) k := by
  cases size : Coefficient.isNegligible k with
  | true => rw [accumulate_of_isNegligible p monomial size, contribute, if_pos size]
  | false =>
      rw [Polynomial.accumulate, contribute, size, if_neg Bool.false_ne_true,
        if_neg Bool.false_ne_true, coefficient, coefficient,
        lookup_insertTerm_self monomial k canonical.descending]
      cases p.terms.lookup monomial with
      | none =>
          -- What is worth keeping is so as well when it is added to zero.
          change k = if Coefficient.isNegligible (0 + k) then 0 else 0 + k
          rw [zero_add, size, if_neg Bool.false_ne_true]
      | some stored =>
          simp only [Option.getD_some]
          cases Coefficient.isNegligible (stored + k) <;> rfl

/-- Of many scaled monomials only those with a given monomial contribute to its
coefficient. -/
theorem Canonical.coefficient_foldl_accumulate
    {p : Polynomial ℚ}
    (canonical : p.Canonical)
    (terms : List (Monomial × ℚ))
    (monomial : Monomial) :
    (terms.foldl (fun sum term => sum.accumulate term.1 term.2) p).coefficient monomial =
      (contributions terms monomial).foldl contribute (p.coefficient monomial) := by
  induction terms generalizing p with
  | nil => rfl
  | cons term rest inductionHypothesis =>
      obtain ⟨head, k⟩ := term
      rw [List.foldl_cons, inductionHypothesis (canonical.accumulate head k)]
      by_cases same : head = monomial
      · subst same
        rw [contributions_cons_self, List.foldl_cons, canonical.coefficient_accumulate_self]
      · rw [contributions_cons_of_ne same, coefficient_accumulate_of_ne p same]

theorem coefficient_ofTerms (terms : List (Monomial × ℚ)) (monomial : Monomial) :
    (ofTerms terms).coefficient monomial =
      (contributions terms monomial).foldl contribute 0 :=
  Canonical.zero.coefficient_foldl_accumulate terms monomial

/-- The products of all pairs of stored summands, in the order in which they are added. -/
def pairProducts (p q : Polynomial ℚ) : List (Monomial × ℚ) :=
  (p.terms ×ˢ q.terms).map fun pair =>
    (pair.1.1.multiply pair.2.1, pair.1.2 * pair.2.2)

theorem multiply_eq_ofTerms (p q : Polynomial ℚ) :
    p.multiply q = ofTerms (pairProducts p q) := by
  rw [multiply_eq_foldl_pairs, ofTerms, pairProducts, List.foldl_map]

/-! ## How far off it is -/

theorem abs_contribute_sub_lt (sum contribution : ℚ) :
    |contribute sum contribution - (sum + contribution)| < rationalTolerance := by
  unfold contribute
  split
  · rename_i ignored
    rw [isNegligible_eq_true_iff] at ignored
    rwa [sub_add_cancel_left, abs_neg]
  · split
    · rename_i vanishes
      rw [isNegligible_eq_true_iff] at vanishes
      rwa [zero_sub, abs_neg]
    · rw [sub_self, abs_zero]
      exact rationalTolerance_pos

/-- The first step is off by its own, and the others by theirs. -/
theorem abs_foldl_contribute_cons_sub_le (start k : ℚ) (rest : List ℚ) :
    |(k :: rest).foldl contribute start - (start + (k :: rest).sum)| ≤
      |rest.foldl contribute (contribute start k) - (contribute start k + rest.sum)| +
        |contribute start k - (start + k)| := by
  rw [List.foldl_cons, List.sum_cons, ← add_assoc]
  refine (abs_sub_le _ (contribute start k + rest.sum) _).trans (le_of_eq ?_)
  rw [add_sub_add_right_eq_sub]

theorem abs_foldl_contribute_sub_le (start : ℚ) (ks : List ℚ) :
    |ks.foldl contribute start - (start + ks.sum)| ≤ ks.length * rationalTolerance := by
  induction ks generalizing start with
  | nil => simp
  | cons k rest inductionHypothesis =>
      rw [List.length_cons, Nat.cast_succ, add_mul, one_mul]
      exact (abs_foldl_contribute_cons_sub_le start k rest).trans
        (add_le_add (inductionHypothesis _) (abs_contribute_sub_lt start k).le)

/-- As soon as there is a step the bound is not reached. -/
theorem abs_foldl_contribute_sub_lt
    (start : ℚ)
    {ks : List ℚ}
    (notNil : ks ≠ []) :
    |ks.foldl contribute start - (start + ks.sum)| < ks.length * rationalTolerance := by
  cases ks with
  | nil => exact absurd rfl notNil
  | cons k rest =>
      rw [List.length_cons, Nat.cast_succ, add_mul, one_mul]
      exact (abs_foldl_contribute_cons_sub_le start k rest).trans_lt
        (add_lt_add_of_le_of_lt (abs_foldl_contribute_sub_le _ rest)
          (abs_contribute_sub_lt start k))

/-- A value that is off from a sum by less than the tolerance for each summand. -/
structure NearSum (value : ℚ) (summands : List ℚ) : Prop where
  /-- Where there is nothing to add there is nothing. -/
  of_nil : summands = [] → value = 0
  of_ne_nil : summands ≠ [] →
    |value - summands.sum| < summands.length * rationalTolerance

theorem nearSum_foldl_contribute (ks : List ℚ) : NearSum (ks.foldl contribute 0) ks where
  of_nil := by
    rintro rfl
    rfl
  of_ne_nil notNil := by
    have bound := abs_foldl_contribute_sub_lt 0 notNil
    rwa [zero_add] at bound

/-- A coefficient of a sum of listed summands, or of a product, is off from the exact one by
less than the tolerance for each summand of the list, or for each pair of stored summands,
that contributes to its monomial. -/
theorem coefficient_near_sum (monomial : Monomial) :
    (∀ terms, NearSum ((ofTerms terms).coefficient monomial) (contributions terms monomial)) ∧
      ∀ p q, NearSum ((p.multiply q).coefficient monomial)
        (contributions (pairProducts p q) monomial) := by
  have ofList : ∀ terms,
      NearSum ((ofTerms terms).coefficient monomial) (contributions terms monomial) := by
    intro terms
    rw [coefficient_ofTerms]
    exact nearSum_foldl_contribute _
  refine ⟨ofList, fun p q => ?_⟩
  rw [multiply_eq_ofTerms]
  exact ofList (pairProducts p q)

/-- Nine tenths of the tolerance are dropped each time, so three contributions are off by
almost three times the tolerance. -/
example :
    let x := Monomial.ofSymbols ["x"]
    let small : ℚ := rationalTolerance * (9 / 10)
    (ofTerms [(x, small), (x, small), (x, small)]).coefficient x = 0 ∧
      (contributions [(x, small), (x, small), (x, small)] x).sum =
        rationalTolerance * (27 / 10) := by
  decide +kernel

end Polynomial
end PolyMatrix
