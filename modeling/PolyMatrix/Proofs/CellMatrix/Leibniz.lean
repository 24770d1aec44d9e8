import Mathlib.LinearAlgebra.Matrix.Determinant.Basic
import PolyMatrix.Context
import PolyMatrix.Proofs.CellMatrix.Positions
import PolyMatrix.Proofs.Rule.Soundness

/-!
# The determinant is the sum over all permutations

Expansion along the first row computes the determinant of the matrix of values, for
every size, whichever cells are empty, and with rules that keep values applied to
every partial sum.  Values are taken by a homomorphism of rings, so the statement
covers numbers under an assignment as well as the polynomials themselves.
-/

namespace PolyMatrix

/-- The sign of a column in an expansion along the first row. -/
theorem Coefficient.sign_mod_two (col : Nat) :
    Coefficient.sign (col % 2 == 1) = (-1 : ℤ) ^ col := by
  rw [neg_one_pow_eq_pow_mod_two]
  rcases Nat.mod_two_eq_zero_or_one col with even | odd
  · rw [even]
    rfl
  · rw [odd]
    rfl

namespace CellMatrix

theorem skip_eq_succAbove
    {size : Nat}
    (gap : Fin (size + 1))
    (place : Fin size) : skip gap place = gap.succAbove place := by
  unfold skip Fin.succAbove
  by_cases below : place.val < gap.val
  · rw [if_pos below, if_pos (Fin.lt_def.mpr below), Fin.val_castSucc]
  · rw [if_neg below, if_neg fun lower => below (Fin.lt_def.mp lower), Fin.val_succ]

/-- A partial sum of an expansion with one more column taken into it. -/
def addColumn
    (rules : Option (RuleSet ℤ))
    (cell : Cell ℤ)
    (minor : Noted (Polynomial ℤ))
    (sum : Polynomial ℤ)
    (col : Nat) : Noted (Polynomial ℤ) :=
  match cell with
  | none => pure sum
  | some cell =>
      if cell.isZero then pure sum
      else do
        let minor ← minor
        simplify rules
          (sum.addScaled (cell.multiply minor) (Coefficient.sign (col % 2 == 1)))

theorem expansion_eq_foldlM
    (rules : Option (RuleSet ℤ))
    (size : Nat)
    (matrix : CellMatrix ℤ) :
    expansion rules (size + 3) matrix =
      (List.range (size + 3)).foldlM
        (fun sum col => addColumn rules (matrix.entry 0 col)
          (expansion rules (size + 2) (matrix.minor 0 col)) sum col) .zero := by
  rw [expansion]
  congr 1
  funext sum col
  cases matrix.entry 0 col with
  | none => rfl
  | some cell => rfl

section Values

variable {R : Type} [CommRing R] (value : MvPolynomial String ℤ →+* R)

/-- The values of the first `size` rows and columns; an empty cell has the value
zero. -/
noncomputable def valueMatrix
    (size : Nat)
    (matrix : CellMatrix ℤ) : Matrix (Fin size) (Fin size) R :=
  Matrix.of fun row col => value (matrix.value row col).meaning

theorem valueMatrix_minor
    {size : Nat}
    {matrix : CellMatrix ℤ}
    (rows : matrix.rows = size + 1)
    (cols : matrix.cols = size + 1)
    (col : Fin (size + 1)) :
    valueMatrix value size (matrix.minor 0 col) =
      (valueMatrix value (size + 1) matrix).submatrix Fin.succ col.succAbove := by
  ext i j
  have rowInside : i.val < matrix.rows - 1 := by omega
  have colInside : j.val < matrix.cols - 1 := by omega
  rw [valueMatrix, Matrix.of_apply, value_minor matrix rowInside colInside,
    skip_eq_succAbove]
  rfl

theorem value_simplify
    {rules : Option (RuleSet ℤ)}
    (sameValue : ∀ set ∈ rules, ∀ rule ∈ set.rules,
      value (rule.pattern.scaled 1) = value rule.replacement.meaning)
    (p : Polynomial ℤ) :
    value (simplify rules p).value.meaning = value p.meaning := by
  cases rules with
  | none => rfl
  | some set => exact RuleSet.value_applyTo value set (sameValue set rfl) p

/-- A cell that is empty or zero is passed over, and contributes the same as if it
were not. -/
theorem value_addColumn
    {rules : Option (RuleSet ℤ)}
    (sameValue : ∀ set ∈ rules, ∀ rule ∈ set.rules,
      value (rule.pattern.scaled 1) = value rule.replacement.meaning)
    (cell : Cell ℤ)
    (minor : Noted (Polynomial ℤ))
    (sum : Polynomial ℤ)
    (col : Nat) :
    value (addColumn rules cell minor sum col).value.meaning =
      value sum.meaning +
        (-1) ^ col * value (cell.getD .zero).meaning *
          value minor.value.meaning := by
  cases cell with
  | none =>
      change value sum.meaning =
        value sum.meaning + (-1) ^ col * value 0 * value minor.value.meaning
      rw [map_zero, mul_zero, zero_mul, add_zero]
  | some cell =>
      rw [addColumn, Option.getD_some]
      by_cases vanishes : cell.isZero = true
      · have nothing : cell.meaning = 0 := by
          rw [Polynomial.meaning, List.isEmpty_iff.mp vanishes]
          rfl
        rw [if_pos vanishes, Noted.value_pure, nothing, map_zero, mul_zero, zero_mul,
          add_zero]
      · rw [if_neg vanishes, Noted.value_bind, value_simplify value sameValue,
          Polynomial.meaning_addScaled, Polynomial.meaning_multiply,
          Coefficient.sign_mod_two, map_add, map_mul, map_mul, map_pow, map_neg,
          MvPolynomial.C_1, map_pow, map_neg, map_one]
        ring

/-- Expansion along the first row computes the determinant of the values. -/
theorem value_expansion
    {rules : Option (RuleSet ℤ)}
    (sameValue : ∀ set ∈ rules, ∀ rule ∈ set.rules,
      value (rule.pattern.scaled 1) = value rule.replacement.meaning)
    (size : Nat)
    (matrix : CellMatrix ℤ)
    (rows : matrix.rows = size)
    (cols : matrix.cols = size) :
    value (expansion rules size matrix).value.meaning =
      (valueMatrix value size matrix).det := by
  induction size generalizing matrix with
  | zero =>
      rw [Matrix.det_isEmpty, expansion, Noted.value_pure, Polynomial.meaning_one,
        map_one]
  | succ size inductionHypothesis =>
      match size with
      | 0 =>
          rw [Matrix.det_fin_one]
          rfl
      | 1 =>
          rw [Matrix.det_fin_two, expansion, Noted.value_pure,
            Polynomial.meaning_subtract, Polynomial.meaning_multiply,
            Polynomial.meaning_multiply, map_sub, map_mul, map_mul]
          rfl
      | size + 2 =>
          have minors (col : Nat) :
              value (expansion rules (size + 2) (matrix.minor 0 col)).value.meaning =
                (valueMatrix value (size + 2) (matrix.minor 0 col)).det := by
            apply inductionHypothesis
            · change matrix.rows - 1 = size + 2
              omega
            · change matrix.cols - 1 = size + 2
              omega
          rw [expansion_eq_foldlM, Noted.value_foldlM, Polynomial.measure_foldl
            (fun sum : Polynomial ℤ => value sum.meaning)
            fun sum col => value_addColumn value sameValue (matrix.entry 0 col)
              (expansion rules (size + 2) (matrix.minor 0 col)) sum col,
            Polynomial.meaning_zero, map_zero, zero_add, Matrix.det_succ_row_zero]
          change ∑ col ∈ Finset.range (size + 3), _ = _
          rw [Finset.sum_range]
          apply Finset.sum_congr rfl
          intro col _
          rw [minors, valueMatrix_minor value rows cols]
          rfl

end Values
end CellMatrix

/-- Every square matrix has a determinant.  Where the rules of the context hold, its
value is the sum over all permutations of the signed products of the values of the
cells; without rules the determinant is that sum as a polynomial. -/
theorem determinant_eq_sum_perm
    (context : Context ℤ)
    (matrix : CellMatrix ℤ)
    (square : matrix.rows = matrix.cols) :
    ∃ recorded, (context.determinant matrix).result = .ok recorded ∧
      (∀ assignment,
        (∀ set ∈ context.rules, ∀ rule ∈ set.rules, rule.HoldsAt assignment) →
          recorded.value.eval assignment =
            ∑ σ : Equiv.Perm (Fin matrix.rows), Equiv.Perm.sign σ •
              ∏ place, (matrix.value (σ place) place).eval assignment) ∧
      (context.rules = none →
        recorded.value.meaning =
          ∑ σ : Equiv.Perm (Fin matrix.rows), Equiv.Perm.sign σ •
            ∏ place, (matrix.value (σ place) place).meaning) := by
  have isSquare : matrix.isSquare = true := beq_iff_eq.mpr square
  let value := (CellMatrix.expansion context.rules matrix.rows matrix).value
  have computed : (matrix.determinant context.rules).result = .ok value := by
    rw [CellMatrix.result_determinant, if_pos isSquare]
  refine ⟨context.record ("determinant = " ++ value.text) matrix value, ?_, ?_, ?_⟩
  · rw [Context.determinant, Attempt.result_bind, computed]
    rfl
  · intro assignment holds
    have expanded := CellMatrix.value_expansion (MvPolynomial.eval assignment)
      (fun set present rule member => (holds set present rule member).eval_meaning)
      matrix.rows matrix rfl square.symm
    rw [Context.value_record, ← Polynomial.eval_meaning, expanded, Matrix.det_apply]
    simp only [CellMatrix.valueMatrix, Matrix.of_apply, Polynomial.eval_meaning]
  · intro noRules
    have sameValue : ∀ set ∈ context.rules, ∀ rule ∈ set.rules,
        RingHom.id _ (rule.pattern.scaled 1) =
          RingHom.id _ rule.replacement.meaning := by
      intro set present
      rw [noRules] at present
      cases present
    have expanded := CellMatrix.value_expansion (RingHom.id _) sameValue
      matrix.rows matrix rfl square.symm
    rw [Context.value_record, ← RingHom.id_apply value.meaning, expanded,
      Matrix.det_apply]
    rfl

/-- A matrix with empty cells on the diagonal and one symbol everywhere else. -/
theorem determinant_eq_sum_perm_hollow :
    let hollow : CellMatrix ℤ := .ofFn 3 3 fun row col =>
      if row = col then none else some (.ofTerm (.ofSymbols ["x"]) 1)
    hollow.rows = hollow.cols ∧
      ∃ recorded, (({} : Context ℤ).determinant hollow).result = .ok recorded ∧
        recorded.value.eval (fun _ => 2) = 16 := by
  intro hollow
  obtain ⟨recorded, computed, values, _⟩ := determinant_eq_sum_perm {} hollow rfl
  refine ⟨rfl, recorded, computed, (values _ ?_).trans ?_⟩
  · intro set present
    cases present
  · decide +kernel

end PolyMatrix
