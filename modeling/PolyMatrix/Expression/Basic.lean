import PolyMatrix.Decimal

/-!
# Expressions

The meaning of a text, before any coefficient is rounded: numbers and symbols,
combined by signs, products and sums.
-/

namespace PolyMatrix

/-- An arithmetic expression over symbols. -/
inductive Expression
  /-- The expression without operands. -/
  | zero
  | number (value : Decimal)
  | symbol (name : String)
  /-- A number written directly in front of a symbol. -/
  | multiple (value : Decimal) (name : String)
  | signed (negative : Bool) (operand : Expression)
  | product (left right : Expression)
  | sum (left : Expression) (negative : Bool) (right : Expression)
  deriving DecidableEq, Repr

namespace Expression

/-- An expression with another one added that may be missing. -/
def extend (total : Expression) : Option Expression → Expression
  | some addend => .sum total false addend
  | none => total

@[simp] theorem extend_none (total : Expression) : total.extend none = total :=
  rfl

@[simp] theorem extend_some (total addend : Expression) :
    total.extend (some addend) = .sum total false addend :=
  rfl

end Expression
end PolyMatrix
