import Mathlib.Data.List.Basic
import PolyMatrix.Rule.Basic

/-!
# Remarks take no part

What is computed from a polynomial is read off its summands.  An operation that builds its
result anew gives the same polynomial for operands that differ only in their remarks, and
one that may hand its operand back keeps the remark as the only difference.
-/

namespace PolyMatrix

namespace Polynomial

variable {K : Type}

/-! ## The same summands -/

/-- Two polynomials store the same, and where remarks matter they have the same remark. -/
structure Same (remarks : Prop) (p q : Polynomial K) : Prop where
  /-- The summands are the same. -/
  terms : p.terms = q.terms
  /-- The remarks are the same, if they matter. -/
  note : remarks → p.note = q.note

variable {remarks : Prop} {p q p' q' : Polynomial K}

theorem Same.of_eq (equal : p = q) : p.Same remarks q := by
  subst equal
  exact ⟨rfl, fun _ => rfl⟩

/-- What a remark takes no part in is the same where the summands are. -/
theorem Same.apply_eq
    {α : Type}
    (same : p.Same remarks q)
    (f : Polynomial K → α)
    (ignores : ∀ p, f p.withoutNote = f p) : f p = f q := by
  rw [← ignores p, ← ignores q, withoutNote, withoutNote, same.terms]

variable [Add K] [Mul K] [Coefficient K]

theorem Same.accumulateScaled
    (same : q.Same remarks q')
    (p : Polynomial K)
    (k : K) : p.accumulateScaled q k = p.accumulateScaled q' k :=
  same.apply_eq (fun q => p.accumulateScaled q k) fun _ => rfl

theorem Same.multiply
    (left : p.Same remarks p')
    (right : q.Same remarks q') : p.multiply q = p'.multiply q' :=
  (left.apply_eq (fun p => p.multiply q) fun _ => rfl).trans
    (right.apply_eq (fun q => p'.multiply q) fun _ => rfl)

/-- A product with zero is zero, whatever coefficients do. -/
@[simp] theorem multiply_zero_right (p : Polynomial K) : p.multiply zero = zero :=
  List.foldl_fixed p.terms

end Polynomial

/-! ## Rules -/

namespace RuleSet

open PolyMatrix.Polynomial

variable {K : Type} [Add K] [Mul K] [Coefficient K]

/-- Whether rules apply, and what they make of a polynomial, does not depend on a remark. -/
theorem applyRules?_withoutNote
    (mode : RuleMode)
    (rules : List (Rule K))
    (p : Polynomial K) :
    applyRules? mode rules p.withoutNote = applyRules? mode rules p := by
  induction rules with
  | nil => rfl
  | cons rule rest inductionHypothesis =>
      have first : applyRule? mode rule p.withoutNote = applyRule? mode rule p := rfl
      rw [applyRules?, applyRules?, first]
      congr 1
      funext changed
      cases changed with
      | none => exact inductionHypothesis
      | some changed => rfl

/-- No rule applies to zero. -/
theorem applyRules?_zero (mode : RuleMode) (rules : List (Rule K)) :
    applyRules? mode rules zero = pure none := by
  induction rules with
  | nil => rfl
  | cons rule rest inductionHypothesis => exact inductionHypothesis

theorem applyTo_zero (set : RuleSet K) : set.applyTo zero = pure zero := by
  rw [applyTo, applyTo?, applyRules?_zero]
  rfl

variable {remarks : Prop} {p q : Polynomial K}

theorem applyTo?_of_same
    (same : p.Same remarks q)
    (set : RuleSet K) : set.applyTo? p = set.applyTo? q :=
  same.apply_eq set.applyTo? (applyRules?_withoutNote set.mode set.rules)

theorem notices_applyTo_of_same
    (same : p.Same remarks q)
    (set : RuleSet K) : (set.applyTo p).notices = (set.applyTo q).notices := by
  rw [applyTo, applyTo, applyTo?_of_same same set]
  rfl

/-- A rule set makes the same of the same summands, and where none of its rules applies it
leaves the remark as well. -/
theorem value_applyTo_of_same
    (same : p.Same remarks q)
    (set : RuleSet K) : (set.applyTo p).value.Same remarks (set.applyTo q).value := by
  rw [applyTo, applyTo, applyTo?_of_same same set]
  change ((set.applyTo? q).value.getD p).Same remarks ((set.applyTo? q).value.getD q)
  cases (set.applyTo? q).value with
  | none => exact same
  | some changed => exact .of_eq rfl

end RuleSet
end PolyMatrix
