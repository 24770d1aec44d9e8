import PolyMatrix.Expression.Basic
import PolyMatrix.Polynomial.Basic

/-!
# Values under an assignment

Where every symbol stands for a number, so does every monomial, every polynomial
and every expression.  Values are computed by the plain arithmetic of the
coefficients: nothing is dropped and no terms are collected, so what the other
modules do to polynomials can be measured against them.
-/

namespace PolyMatrix

variable {K : Type} [Coefficient K]

namespace Monomial

/-- The product of the values of the factors. -/
def eval [Mul K] (assignment : String → K) (monomial : Monomial) : K :=
  monomial.symbols.foldr (fun symbol value => assignment symbol * value) Coefficient.one

@[simp] theorem eval_unit [Mul K] (assignment : String → K) :
    unit.eval assignment = Coefficient.one :=
  rfl

end Monomial

namespace Polynomial

/-- The sum of the values of the scaled monomials. -/
def eval [Add K] [Mul K] (assignment : String → K) (p : Polynomial K) : K :=
  p.terms.foldr (fun term value => term.2 * term.1.eval assignment + value)
    Coefficient.zero

@[simp] theorem eval_zero [Add K] [Mul K] (assignment : String → K) :
    (zero : Polynomial K).eval assignment = Coefficient.zero :=
  rfl

/-- A remark has no value. -/
@[simp] theorem eval_withNote
    [Add K] [Mul K]
    (assignment : String → K)
    (p : Polynomial K)
    (note : String) :
    (p.withNote note).eval assignment = p.eval assignment :=
  rfl

end Polynomial

namespace Expression

/-- The value that arithmetic gives to an expression. -/
def eval [Add K] [Neg K] [Mul K] (assignment : String → K) : Expression → K
  | zero => Coefficient.zero
  | number value => Coefficient.ofDecimal value
  | symbol name => assignment name
  | multiple value name => Coefficient.ofDecimal value * assignment name
  | signed negative operand => Coefficient.sign negative * operand.eval assignment
  | product left right => left.eval assignment * right.eval assignment
  | sum left negative right =>
      left.eval assignment + Coefficient.sign negative * right.eval assignment

@[simp] theorem eval_number
    [Add K] [Neg K] [Mul K]
    (assignment : String → K)
    (value : Decimal) :
    (number value).eval assignment = Coefficient.ofDecimal value :=
  rfl

@[simp] theorem eval_symbol
    [Add K] [Neg K] [Mul K]
    (assignment : String → K)
    (name : String) : (symbol name).eval assignment = assignment name :=
  rfl

@[simp] theorem eval_product
    [Add K] [Neg K] [Mul K]
    (assignment : String → K)
    (left right : Expression) :
    (product left right).eval assignment =
      left.eval assignment * right.eval assignment :=
  rfl

end Expression
end PolyMatrix
