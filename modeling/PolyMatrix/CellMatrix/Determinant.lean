import PolyMatrix.CellMatrix.Algebra

/-!
# Determinants

The determinant is expanded along the first row.  Every partial sum is simplified
with the rules at hand, which keeps expressions short; matrices of up to two rows
have closed forms and are not simplified.
-/

namespace PolyMatrix
namespace CellMatrix

variable {K : Type} [Add K] [Neg K] [Mul K] [Coefficient K]

/-- The determinant of the first `size` rows and columns, by expansion along the
first row.  Cells that are empty or zero contribute nothing. -/
def expansion (rules : Option (RuleSet K)) : Nat → CellMatrix K → Noted (Polynomial K)
  | 0, _ => pure .one
  | 1, matrix => pure (matrix.value 0 0)
  | 2, matrix =>
      pure (((matrix.value 0 0).multiply (matrix.value 1 1)).subtract
        ((matrix.value 0 1).multiply (matrix.value 1 0)))
  | size + 3, matrix =>
      (List.range (size + 3)).foldlM
        (fun sum col =>
          match matrix.entry 0 col with
          | none => pure sum
          | some cell =>
              if cell.isZero then pure sum
              else do
                let minor ← expansion rules (size + 2) (matrix.minor 0 col)
                simplify rules
                  (sum.addScaled (cell.multiply minor)
                    (Coefficient.sign (col % 2 == 1)))) .zero

/-- The determinant of a square matrix. -/
def determinant (matrix : CellMatrix K) (rules : Option (RuleSet K)) :
    Attempt (Polynomial K) :=
  if matrix.isSquare then do
    Attempt.note (.determinant matrix.rows matrix.cols)
    Attempt.ofNoted (expansion rules matrix.rows matrix)
  else
    Attempt.fail (.notSquare matrix.rows matrix.cols)

/-- A matrix has a determinant exactly if it is square. -/
theorem result_determinant (matrix : CellMatrix K) (rules : Option (RuleSet K)) :
    (matrix.determinant rules).result =
      if matrix.isSquare then .ok (expansion rules matrix.rows matrix).value
      else .error (.notSquare matrix.rows matrix.cols) := by
  unfold determinant
  split <;> rfl

end CellMatrix
end PolyMatrix
