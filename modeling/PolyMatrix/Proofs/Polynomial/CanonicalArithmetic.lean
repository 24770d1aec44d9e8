import Mathlib.Data.List.ProdSigma
import PolyMatrix.Polynomial.Arithmetic
import PolyMatrix.Polynomial.Canonical

/-!
# Arithmetic on canonical polynomials

Sums and products are canonical whatever the arithmetic of the coefficients is:
a sum starts from a canonical operand, a product from nothing.
-/

namespace PolyMatrix
namespace Polynomial

variable {K : Type} [Coefficient K]

theorem Canonical.withoutNote
    {p : Polynomial K}
    (canonical : p.Canonical) : p.withoutNote.Canonical :=
  ⟨canonical.descending, canonical.significant⟩

theorem Canonical.withNote
    {p : Polynomial K}
    (canonical : p.Canonical)
    (note : String) : (p.withNote note).Canonical :=
  ⟨canonical.descending, canonical.significant⟩

/-- Steps that keep a polynomial canonical keep it so one after another. -/
theorem Canonical.foldl
    {α : Type}
    {step : Polynomial K → α → Polynomial K}
    (keeps : ∀ (p : Polynomial K) (item : α), p.Canonical → (step p item).Canonical)
    (items : List α)
    {p : Polynomial K}
    (canonical : p.Canonical) : (items.foldl step p).Canonical := by
  induction items generalizing p with
  | nil => exact canonical
  | cons item rest inductionHypothesis =>
      exact inductionHypothesis (keeps p item canonical)

omit [Coefficient K] in
/-- Steps that keep the remark keep it one after another. -/
theorem note_foldl
    {α : Type}
    {step : Polynomial K → α → Polynomial K}
    (keeps : ∀ (p : Polynomial K) (item : α), (step p item).note = p.note)
    (items : List α)
    (p : Polynomial K) : (items.foldl step p).note = p.note := by
  induction items generalizing p with
  | nil => rfl
  | cons item rest inductionHypothesis =>
      rw [List.foldl_cons, inductionHypothesis, keeps]

variable [Add K]

theorem canonical_ofTerm (monomial : Monomial) (k : K) : (ofTerm monomial k).Canonical :=
  Canonical.zero.accumulate monomial k

theorem canonical_constant (k : K) : (constant k).Canonical :=
  canonical_ofTerm .unit k

theorem canonical_one : (one : Polynomial K).Canonical :=
  canonical_constant Coefficient.one

/-- Adding scaled monomials keeps the remark of the polynomial that they are added
to, so what starts from nothing comes without a remark. -/
theorem note_foldl_accumulate
    {α : Type}
    (monomial : α → Monomial)
    (k : α → K)
    (items : List α)
    (p : Polynomial K) :
    (items.foldl (fun sum item => sum.accumulate (monomial item) (k item)) p).note =
      p.note :=
  note_foldl (fun p item => note_accumulate p (monomial item) (k item)) items p

variable [Mul K]

theorem Canonical.accumulateScaled
    {p : Polynomial K}
    (canonical : p.Canonical)
    (q : Polynomial K)
    (k : K) : (p.accumulateScaled q k).Canonical :=
  canonical.foldl_accumulate Prod.fst (fun term => term.2 * k) q.terms

theorem Canonical.addScaled
    {p : Polynomial K}
    (canonical : p.Canonical)
    (q : Polynomial K)
    (k : K) : (p.addScaled q k).Canonical :=
  canonical.withoutNote.accumulateScaled q k

theorem Canonical.add
    {p : Polynomial K}
    (canonical : p.Canonical)
    (q : Polynomial K) : (p.add q).Canonical :=
  canonical.addScaled q Coefficient.one

theorem Canonical.subtract
    [Neg K]
    {p : Polynomial K}
    (canonical : p.Canonical)
    (q : Polynomial K) : (p.subtract q).Canonical :=
  canonical.addScaled q (-Coefficient.one)

theorem canonical_multiplyTerm
    (p : Polynomial K)
    (monomial : Monomial)
    (k : K) : (p.multiplyTerm monomial k).Canonical := by
  unfold multiplyTerm
  split
  · exact .zero
  · exact Canonical.zero.foldl_accumulate
      (fun term : Monomial × K => term.1.multiply monomial) (fun term => term.2 * k)
      p.terms

theorem canonical_scale (p : Polynomial K) (k : K) : (p.scale k).Canonical :=
  canonical_multiplyTerm p .unit k

theorem canonical_negate [Neg K] (p : Polynomial K) : p.negate.Canonical :=
  canonical_scale p (-Coefficient.one)

/-- A product adds up the products of all pairs of stored monomials, in one pass
over the pairs. -/
theorem multiply_eq_foldl_pairs (p q : Polynomial K) :
    p.multiply q = (p.terms ×ˢ q.terms).foldl
      (fun sum pair =>
        sum.accumulate (pair.1.1.multiply pair.2.1) (pair.1.2 * pair.2.2)) zero := by
  unfold multiply
  generalize (zero : Polynomial K) = start
  induction p.terms generalizing start with
  | nil => rw [List.nil_product, List.foldl_nil, List.foldl_nil]
  | cons left rest inductionHypothesis =>
      rw [List.product_cons, List.foldl_append, List.foldl_map, List.foldl_cons,
        inductionHypothesis]

theorem canonical_multiply (p q : Polynomial K) : (p.multiply q).Canonical := by
  rw [multiply_eq_foldl_pairs]
  exact Canonical.zero.foldl_accumulate
    (fun pair : (Monomial × K) × (Monomial × K) => pair.1.1.multiply pair.2.1)
    (fun pair => pair.1.2 * pair.2.2) (p.terms ×ˢ q.terms)

@[simp] theorem note_addScaled (p q : Polynomial K) (k : K) :
    (p.addScaled q k).note = none :=
  note_foldl_accumulate Prod.fst (fun term => term.2 * k) q.terms p.withoutNote

@[simp] theorem note_add (p q : Polynomial K) : (p.add q).note = none :=
  note_addScaled p q Coefficient.one

@[simp] theorem note_subtract [Neg K] (p q : Polynomial K) :
    (p.subtract q).note = none :=
  note_addScaled p q (-Coefficient.one)

@[simp] theorem note_multiplyTerm
    (p : Polynomial K)
    (monomial : Monomial)
    (k : K) : (p.multiplyTerm monomial k).note = none := by
  unfold multiplyTerm
  split
  · rfl
  · exact note_foldl_accumulate (fun term : Monomial × K => term.1.multiply monomial)
      (fun term => term.2 * k) p.terms zero

@[simp] theorem note_multiply (p q : Polynomial K) : (p.multiply q).note = none := by
  rw [multiply_eq_foldl_pairs]
  exact note_foldl_accumulate
    (fun pair : (Monomial × K) × (Monomial × K) => pair.1.1.multiply pair.2.1)
    (fun pair => pair.1.2 * pair.2.2) (p.terms ×ˢ q.terms) zero

end Polynomial
end PolyMatrix
