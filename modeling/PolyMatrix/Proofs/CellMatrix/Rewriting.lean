import PolyMatrix.CellMatrix.Algebra
import PolyMatrix.Proofs.Rule.Composition

/-!
# Rewriting cell by cell

A rule set is applied to each cell on its own.  So a matrix keeps its shape, its label and
its empty cells, and in reducing mode none of its cells becomes heavier.
-/

namespace PolyMatrix

variable {K : Type}

namespace CellMatrix

/-- Both matrices have one shape and one label. -/
structure SameFrame (left right : CellMatrix K) : Prop where
  rows : left.rows = right.rows
  cols : left.cols = right.cols
  label : left.label = right.label

/-- At every position either both matrices are empty, or both have a polynomial and that of
the first is no heavier. -/
def NoHeavier (left right : CellMatrix K) : Prop :=
  ∀ row col, Option.Rel (fun p q => p.weight ≤ q.weight)
    (left.entry row col) (right.entry row col)

variable [Add K] [Mul K] [Coefficient K]

theorem sameFrame_substitute (matrix : CellMatrix K) (rules : RuleSet K) :
    (matrix.substitute rules).value.SameFrame matrix :=
  ⟨rfl, rfl, rfl⟩

/-- The rules are applied to what stands at each position. -/
theorem entry_substitute
    (matrix : CellMatrix K)
    (rules : RuleSet K)
    (row col : Nat) :
    (matrix.substitute rules).value.entry row col =
      (matrix.entry row col).map fun p => (rules.applyTo p).value :=
  entry_map matrix (fun p => (rules.applyTo p).value) row col

theorem noHeavier_substitute (matrix : CellMatrix K) (rules : List (Rule K)) :
    (matrix.substitute ⟨.ifReducing, rules⟩).value.NoHeavier matrix := by
  intro row col
  rw [entry_substitute]
  cases matrix.entry row col with
  | none => exact .none
  | some p => exact .some (RuleSet.weight_applyTo_le rules p)

end CellMatrix

variable [Add K] [Mul K] [Coefficient K]

/-- What holds of lists of rules one after another, and of matrices rewritten by them. -/
structure RewritingLaws
    (mode : RuleMode)
    (first second : List (Rule K))
    (p : Polynomial K)
    (matrix : CellMatrix K) : Prop where
  /-- Joined lists are applied one after the other, with the notices of both. -/
  applyTo_append : RuleSet.applyTo ⟨mode, first ++ second⟩ p =
    RuleSet.applyTo ⟨mode, first⟩ p >>= RuleSet.applyTo ⟨mode, second⟩
  /-- Joined lists change nothing exactly where neither of them does. -/
  applyTo?_append_eq_none : (RuleSet.applyTo? ⟨mode, first ++ second⟩ p).value = none ↔
    (RuleSet.applyTo? ⟨mode, first⟩ p).value = none ∧
      (RuleSet.applyTo? ⟨mode, second⟩ p).value = none
  /-- In reducing mode nothing becomes heavier. -/
  weight_applyTo_le :
    (RuleSet.applyTo ⟨.ifReducing, first⟩ p).value.weight ≤ p.weight
  /-- In either mode the frame of a matrix is kept. -/
  sameFrame_substitute : (matrix.substitute ⟨mode, first⟩).value.SameFrame matrix
  noHeavier_substitute : (matrix.substitute ⟨.ifReducing, first⟩).value.NoHeavier matrix
  /-- A single rule is applied in reducing mode. -/
  substituteRule : ∀ rule, (matrix.substituteRule rule).value.SameFrame matrix ∧
    (matrix.substituteRule rule).value.NoHeavier matrix

/-- Lists of rules compose, and in reducing mode no polynomial and no cell of a matrix becomes
heavier, whatever the coefficients are. -/
theorem rewritingLaws
    (mode : RuleMode)
    (first second : List (Rule K))
    (p : Polynomial K)
    (matrix : CellMatrix K) : RewritingLaws mode first second p matrix where
  applyTo_append := RuleSet.applyTo_append mode first second p
  applyTo?_append_eq_none := RuleSet.value_applyTo?_append_eq_none_iff mode first second p
  weight_applyTo_le := RuleSet.weight_applyTo_le first p
  sameFrame_substitute := matrix.sameFrame_substitute ⟨mode, first⟩
  noHeavier_substitute := matrix.noHeavier_substitute first
  substituteRule rule := ⟨matrix.sameFrame_substitute _, matrix.noHeavier_substitute [rule]⟩

end PolyMatrix
