import PolyMatrix.Monomial

/-!
# The order of monomials

Monomial order is a strict total order: no monomial precedes itself, precedence is
transitive, and of two different monomials one precedes the other.
-/

namespace PolyMatrix
namespace Monomial

/-- Precedence in terms of degrees and symbols. -/
theorem precedes_iff
    (left right : Monomial) :
    left.precedes right = true ↔
      right.degree < left.degree ∨
        left.degree = right.degree ∧ right.symbols < left.symbols := by
  simp [precedes]

/-- No monomial precedes itself. -/
@[simp] theorem precedes_self
    (monomial : Monomial) : monomial.precedes monomial = false := by
  simp [precedes]

/-- A monomial is not the one that it precedes. -/
theorem ne_of_precedes
    {left right : Monomial}
    (before : left.precedes right = true) : left ≠ right := by
  rintro rfl
  simp at before

/-- Precedence is transitive. -/
theorem precedes_trans
    {first second third : Monomial}
    (firstSecond : first.precedes second = true)
    (secondThird : second.precedes third = true) :
    first.precedes third = true := by
  rw [precedes_iff] at *
  rcases firstSecond with higher | ⟨sameDegree, greater⟩
  · rcases secondThird with higher' | ⟨sameDegree', _⟩
    · exact .inl (by omega)
    · exact .inl (by omega)
  · rcases secondThird with higher' | ⟨sameDegree', greater'⟩
    · exact .inl (by omega)
    · exact .inr ⟨sameDegree.trans sameDegree', List.lt_trans greater' greater⟩

/-- Of two different monomials one precedes the other. -/
theorem precedes_of_ne
    {left right : Monomial}
    (different : left ≠ right)
    (notBefore : left.precedes right = false) :
    right.precedes left = true := by
  have notBefore' : ¬left.precedes right = true := by simp [notBefore]
  rw [precedes_iff] at *
  rcases Nat.lt_trichotomy left.degree right.degree with lower | same | higher
  · exact .inl lower
  · refine .inr ⟨same.symm, ?_⟩
    by_cases below : left.symbols < right.symbols
    · exact below
    · have notAbove : ¬right.symbols < left.symbols :=
        fun above => notBefore' (.inr ⟨same, above⟩)
      exact absurd (ext (List.le_antisymm notAbove below)) different
  · exact absurd (.inl higher) notBefore'

/-- Precedence goes one way only. -/
theorem precedes_asymm
    {left right : Monomial}
    (before : left.precedes right = true) : right.precedes left = false := by
  cases after : right.precedes left with
  | false => rfl
  | true => simpa using precedes_trans before after

end Monomial
end PolyMatrix
