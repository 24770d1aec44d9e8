import Mathlib.Algebra.MvPolynomial.Eval
import PolyMatrix.Coefficient.Exact
import PolyMatrix.Evaluation
import PolyMatrix.Proofs.Monomial.Exponents
import PolyMatrix.Proofs.Polynomial.CanonicalArithmetic
import PolyMatrix.Proofs.Polynomial.Coefficients

/-!
# What a polynomial with integer coefficients denotes

The scaled monomials of a polynomial add up to an element of the ring of
polynomials over the integers.  Adding a scaled monomial to a polynomial adds it
there too, so every operation is the ring operation of its name.  A canonical
polynomial stores the coefficients of what it denotes, and values under an
assignment are those of what is denoted.
-/

namespace PolyMatrix

namespace Monomial

/-- What a scaled monomial denotes. -/
noncomputable def scaled (monomial : Monomial) (k : ℤ) : MvPolynomial String ℤ :=
  MvPolynomial.monomial monomial.exponents k

@[simp] theorem scaled_unit (k : ℤ) : unit.scaled k = MvPolynomial.C k := by
  rw [scaled, exponents_unit, MvPolynomial.C_apply]

theorem scaled_add (monomial : Monomial) (j k : ℤ) :
    monomial.scaled (j + k) = monomial.scaled j + monomial.scaled k :=
  map_add _ j k

@[simp] theorem scaled_zero (monomial : Monomial) : monomial.scaled 0 = 0 :=
  map_zero _

theorem scaled_multiply (left right : Monomial) (j k : ℤ) :
    (left.multiply right).scaled (j * k) = left.scaled j * right.scaled k := by
  rw [scaled, exponents_multiply, scaled, scaled, MvPolynomial.monomial_mul]

theorem scaled_mul (monomial : Monomial) (j k : ℤ) :
    monomial.scaled (j * k) = monomial.scaled j * MvPolynomial.C k := by
  rw [scaled, scaled, mul_comm _ (MvPolynomial.C k), MvPolynomial.C_mul_monomial,
    mul_comm j]

theorem coeff_scaled_self (monomial : Monomial) (k : ℤ) :
    MvPolynomial.coeff monomial.exponents (monomial.scaled k) = k := by
  rw [scaled, MvPolynomial.coeff_monomial, if_pos rfl]

theorem coeff_scaled_of_ne
    {monomial other : Monomial}
    {k : ℤ}
    (different : monomial ≠ other) :
    MvPolynomial.coeff other.exponents (monomial.scaled k) = 0 := by
  rw [scaled, MvPolynomial.coeff_monomial,
    if_neg fun same => different (exponents_injective same)]

/-- The value of a scaled monomial under an assignment. -/
theorem eval_scaled
    (assignment : String → ℤ)
    (monomial : Monomial)
    (k : ℤ) :
    MvPolynomial.eval assignment (monomial.scaled k) =
      k * monomial.eval assignment := by
  suffices factors : ∀ symbols : List String,
      MvPolynomial.eval assignment (MvPolynomial.monomial
        (Multiset.toFinsupp (symbols : Multiset String)) k) =
        k * symbols.foldr (fun symbol value => assignment symbol * value) 1 from
    factors monomial.symbols
  intro symbols
  induction symbols with
  | nil =>
      rw [Multiset.coe_nil, Multiset.toFinsupp_zero, ← MvPolynomial.C_apply,
        MvPolynomial.eval_C, List.foldr_nil, mul_one]
  | cons symbol rest inductionHypothesis =>
      rw [toFinsupp_cons, MvPolynomial.monomial_add_single, pow_one, map_mul,
        MvPolynomial.eval_X, inductionHypothesis, List.foldr_cons, mul_assoc,
        mul_comm (assignment symbol)]

end Monomial

namespace Polynomial

/-- What a polynomial denotes: the sum of its scaled monomials. -/
noncomputable def meaning (p : Polynomial ℤ) : MvPolynomial String ℤ :=
  (p.terms.map fun term => term.1.scaled term.2).sum

@[simp] theorem meaning_zero : (zero : Polynomial ℤ).meaning = 0 :=
  rfl

@[simp] theorem meaning_withNote (p : Polynomial ℤ) (note : String) :
    (p.withNote note).meaning = p.meaning :=
  rfl

@[simp] theorem meaning_withoutNote (p : Polynomial ℤ) :
    p.withoutNote.meaning = p.meaning :=
  rfl

/-! ## Adding scaled monomials -/

theorem sum_insertTerm
    (monomial : Monomial)
    (k : ℤ)
    (terms : List (Monomial × ℤ)) :
    ((insertTerm monomial k terms).map fun term => term.1.scaled term.2).sum =
      (terms.map fun term => term.1.scaled term.2).sum + monomial.scaled k := by
  induction terms with
  | nil => simp [insertTerm]
  | cons head rest inductionHypothesis =>
      rw [List.map_cons, List.sum_cons]
      unfold insertTerm
      split
      · rename_i same
        subst same
        split
        · -- What cancels is left out.
          rename_i cancels
          rw [isNegligible_int, beq_iff_eq] at cancels
          rw [add_right_comm, ← Monomial.scaled_add, cancels, Monomial.scaled_zero,
            zero_add]
        · rw [List.map_cons, List.sum_cons, Monomial.scaled_add, add_right_comm]
      · split
        · rw [List.map_cons, List.map_cons, List.sum_cons, List.sum_cons, add_comm]
        · rw [List.map_cons, List.sum_cons, inductionHypothesis, add_assoc]

/-- Adding a scaled monomial adds what it denotes. -/
@[simp] theorem meaning_accumulate
    (p : Polynomial ℤ)
    (monomial : Monomial)
    (k : ℤ) :
    (p.accumulate monomial k).meaning = p.meaning + monomial.scaled k := by
  unfold accumulate
  split
  · rename_i negligible
    rw [isNegligible_int, beq_iff_eq] at negligible
    rw [negligible, Monomial.scaled_zero, add_zero]
  · exact sum_insertTerm monomial k p.terms

/-- Steps that each add something to a measure add the sum of it one after
another. -/
theorem measure_foldl
    {α β M : Type} [AddMonoid M]
    (measure : β → M)
    {step : β → α → β}
    {addend : α → M}
    (adds : ∀ (state : β) (item : α),
      measure (step state item) = measure state + addend item)
    (items : List α)
    (start : β) :
    measure (items.foldl step start) = measure start + (items.map addend).sum := by
  induction items generalizing start with
  | nil => rw [List.foldl_nil, List.map_nil, List.sum_nil, add_zero]
  | cons item rest inductionHypothesis =>
      rw [List.foldl_cons, inductionHypothesis, adds, List.map_cons, List.sum_cons,
        add_assoc]

theorem meaning_foldl_accumulate
    {α : Type}
    (monomial : α → Monomial)
    (k : α → ℤ)
    (items : List α)
    (p : Polynomial ℤ) :
    (items.foldl (fun sum item => sum.accumulate (monomial item) (k item))
      p).meaning =
      p.meaning + (items.map fun item => (monomial item).scaled (k item)).sum :=
  measure_foldl meaning
    (fun p item => meaning_accumulate p (monomial item) (k item)) items p

@[simp] theorem meaning_ofTerm (monomial : Monomial) (k : ℤ) :
    (ofTerm monomial k).meaning = monomial.scaled k := by
  rw [ofTerm, meaning_accumulate, meaning_zero, zero_add]

@[simp] theorem meaning_constant (k : ℤ) :
    (constant k).meaning = MvPolynomial.C k := by
  rw [constant, meaning_ofTerm, Monomial.scaled_unit]

@[simp] theorem meaning_one : (one : Polynomial ℤ).meaning = 1 := by
  rw [one, meaning_constant]
  exact MvPolynomial.C_1

/-! ## Arithmetic -/

@[simp] theorem meaning_accumulateScaled (p q : Polynomial ℤ) (k : ℤ) :
    (p.accumulateScaled q k).meaning =
      p.meaning + q.meaning * MvPolynomial.C k := by
  rw [accumulateScaled,
    meaning_foldl_accumulate Prod.fst fun term => term.2 * k]
  simp only [Monomial.scaled_mul]
  rw [List.sum_map_mul_right]
  rfl

@[simp] theorem meaning_addScaled (p q : Polynomial ℤ) (k : ℤ) :
    (p.addScaled q k).meaning = p.meaning + q.meaning * MvPolynomial.C k := by
  rw [addScaled, meaning_accumulateScaled, meaning_withoutNote]

@[simp] theorem meaning_add (p q : Polynomial ℤ) :
    (p.add q).meaning = p.meaning + q.meaning := by
  rw [add, meaning_addScaled]
  change _ + _ * MvPolynomial.C 1 = _
  rw [MvPolynomial.C_1, mul_one]

@[simp] theorem meaning_subtract (p q : Polynomial ℤ) :
    (p.subtract q).meaning = p.meaning - q.meaning := by
  rw [subtract, meaning_addScaled]
  change _ + _ * MvPolynomial.C (-1) = _
  rw [map_neg, MvPolynomial.C_1, mul_neg_one, sub_eq_add_neg]

@[simp] theorem meaning_multiplyTerm
    (p : Polynomial ℤ)
    (monomial : Monomial)
    (k : ℤ) :
    (p.multiplyTerm monomial k).meaning = p.meaning * monomial.scaled k := by
  unfold multiplyTerm
  split
  · rename_i negligible
    rw [isNegligible_int, beq_iff_eq] at negligible
    rw [negligible, Monomial.scaled_zero, mul_zero, meaning_zero]
  · rw [meaning_foldl_accumulate
      (fun term : Monomial × ℤ => term.1.multiply monomial) fun term => term.2 * k]
    simp only [Monomial.scaled_multiply]
    rw [List.sum_map_mul_right, meaning_zero, zero_add]
    rfl

@[simp] theorem meaning_scale (p : Polynomial ℤ) (k : ℤ) :
    (p.scale k).meaning = p.meaning * MvPolynomial.C k := by
  rw [scale, meaning_multiplyTerm, Monomial.scaled_unit]

@[simp] theorem meaning_negate (p : Polynomial ℤ) :
    p.negate.meaning = -p.meaning := by
  rw [negate, meaning_scale]
  change _ * MvPolynomial.C (-1) = _
  rw [map_neg, MvPolynomial.C_1, mul_neg_one]

/-- What a product denotes, pair by pair. -/
theorem meaning_multiply_eq_sum (p q : Polynomial ℤ) :
    (p.multiply q).meaning =
      ((p.terms ×ˢ q.terms).map fun pair =>
        (pair.1.1.multiply pair.2.1).scaled (pair.1.2 * pair.2.2)).sum := by
  rw [multiply_eq_foldl_pairs, meaning_foldl_accumulate
    (fun pair : (Monomial × ℤ) × (Monomial × ℤ) => pair.1.1.multiply pair.2.1)
    fun pair => pair.1.2 * pair.2.2, meaning_zero, zero_add]

@[simp] theorem meaning_multiply (p q : Polynomial ℤ) :
    (p.multiply q).meaning = p.meaning * q.meaning := by
  rw [meaning_multiply_eq_sum, meaning]
  induction p.terms with
  | nil => rw [List.nil_product, List.map_nil, List.map_nil, List.sum_nil, zero_mul]
  | cons left rest inductionHypothesis =>
      have row : (q.terms.map fun right =>
          (left.1.multiply right.1).scaled (left.2 * right.2)).sum =
          left.1.scaled left.2 * q.meaning := by
        simp only [Monomial.scaled_multiply]
        rw [List.sum_map_mul_left]
        rfl
      rw [List.product_cons, List.map_append, List.map_map, List.sum_append,
        inductionHypothesis, List.map_cons, List.sum_cons, add_mul, ← row]
      rfl

/-! ## Coefficients and values -/

theorem coeff_sum_of_not_mem
    {terms : List (Monomial × ℤ)}
    {monomial : Monomial}
    (absent : ∀ term ∈ terms, term.1 ≠ monomial) :
    MvPolynomial.coeff monomial.exponents
      (terms.map fun term => term.1.scaled term.2).sum = 0 := by
  induction terms with
  | nil => rfl
  | cons head rest inductionHypothesis =>
      rw [List.map_cons, List.sum_cons, MvPolynomial.coeff_add,
        inductionHypothesis fun term member =>
          absent term (List.mem_cons_of_mem head member),
        Monomial.coeff_scaled_of_ne (absent head List.mem_cons_self), add_zero]

/-- A canonical polynomial stores the coefficients of what it denotes. -/
theorem Canonical.coeff_meaning
    {p : Polynomial ℤ}
    (canonical : p.Canonical)
    (monomial : Monomial) :
    MvPolynomial.coeff monomial.exponents p.meaning = p.coefficient monomial := by
  have descending := canonical.descending
  unfold meaning coefficient
  generalize p.terms = terms at descending
  induction terms with
  | nil => rfl
  | cons head rest inductionHypothesis =>
      have split := List.pairwise_cons.mp descending
      rw [List.map_cons, List.sum_cons, MvPolynomial.coeff_add, List.lookup_cons]
      by_cases same : head.1 = monomial
      · subst same
        have absent : ∀ term ∈ rest, term.1 ≠ head.1 :=
          fun term member => (Monomial.ne_of_precedes (split.1 term member)).symm
        rw [Monomial.coeff_scaled_self, coeff_sum_of_not_mem absent, add_zero,
          beq_self_eq_true]
        rfl
      · rw [Monomial.coeff_scaled_of_ne same, zero_add, inductionHypothesis split.2,
          beq_eq_false_iff_ne.mpr (Ne.symm same)]

/-- Canonical polynomials that denote the same store the same. -/
theorem Canonical.terms_eq_of_meaning_eq
    {p q : Polynomial ℤ}
    (canonicalP : p.Canonical)
    (canonicalQ : q.Canonical)
    (same : p.meaning = q.meaning) : p.terms = q.terms := by
  refine canonicalP.terms_eq canonicalQ rfl ?_
  intro monomial
  rw [← canonicalP.coeff_meaning, same, canonicalQ.coeff_meaning]

/-- Values under an assignment are those of what is denoted. -/
theorem eval_meaning (assignment : String → ℤ) (p : Polynomial ℤ) :
    MvPolynomial.eval assignment p.meaning = p.eval assignment := by
  unfold meaning Polynomial.eval
  induction p.terms with
  | nil => rfl
  | cons head rest inductionHypothesis =>
      rw [List.map_cons, List.sum_cons, map_add, inductionHypothesis,
        Monomial.eval_scaled, List.foldr_cons]

theorem eval_ofTerm (assignment : String → ℤ) (monomial : Monomial) (k : ℤ) :
    (ofTerm monomial k).eval assignment = k * monomial.eval assignment := by
  rw [← eval_meaning, meaning_ofTerm, Monomial.eval_scaled]

theorem eval_constant (assignment : String → ℤ) (k : ℤ) :
    (constant k).eval assignment = k := by
  rw [← eval_meaning, meaning_constant, MvPolynomial.eval_C]

theorem eval_scale (assignment : String → ℤ) (p : Polynomial ℤ) (k : ℤ) :
    (p.scale k).eval assignment = k * p.eval assignment := by
  rw [← eval_meaning, meaning_scale, map_mul, MvPolynomial.eval_C, eval_meaning,
    mul_comm]

theorem eval_accumulateScaled (assignment : String → ℤ) (p q : Polynomial ℤ) (k : ℤ) :
    (p.accumulateScaled q k).eval assignment =
      p.eval assignment + k * q.eval assignment := by
  rw [← eval_meaning, meaning_accumulateScaled, map_add, map_mul, MvPolynomial.eval_C,
    eval_meaning, eval_meaning, mul_comm k]

theorem eval_multiply (assignment : String → ℤ) (p q : Polynomial ℤ) :
    (p.multiply q).eval assignment = p.eval assignment * q.eval assignment := by
  rw [← eval_meaning, meaning_multiply, map_mul, eval_meaning, eval_meaning]

end Polynomial
end PolyMatrix
