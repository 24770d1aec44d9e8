import Mathlib.Algebra.Field.Rat
import PolyMatrix.Expression.Token

/-!
# The grammar of expressions

A sentence is a sum of signed terms, a term a product of signed primaries that
stand side by side or with a star between them, and a primary a number, a symbol, a
number in front of a symbol, or a sentence in brackets.  Trees of the grammar have
their tokens, their depth of brackets and the rational number that arithmetic gives
them; none of this mentions how expressions are read.
-/

namespace PolyMatrix

/-- The number that a decimal stands for. -/
def Decimal.toRat (decimal : Decimal) : ℚ :=
  decimal.mantissa / decimal.denominator

/-- The decimals that stand for integers. -/
def Decimal.IsWhole (decimal : Decimal) : Prop :=
  decimal.denominator ∣ decimal.mantissa

/-- The tokens that are no fractions. -/
def Token.IsWhole : Token → Prop
  | .number value => value.IsWhole
  | _ => True

instance : DecidablePred Token.IsWhole
  | .number value => inferInstanceAs (Decidable (value.denominator ∣ value.mantissa))
  | .symbol _ | .plus | .minus | .star | .opening | .closing => .isTrue trivial

namespace Grammar

/-- The tokens of a run of signs, where `true` is a minus. -/
def signTokens (signs : List Bool) : List Token :=
  signs.map fun negative => if negative then .minus else .plus

/-- The factor that a run of signs stands for: every minus negates. -/
def signValue (signs : List Bool) : ℚ :=
  (signs.map fun negative => if negative then (-1 : ℚ) else 1).prod

/-- What stands between two primaries of a term. -/
inductive Link
  /-- A star, and the signs of the second primary. -/
  | star (signs : List Bool)
  /-- Nothing. -/
  | adjacent
  deriving DecidableEq

namespace Link

def tokens : Link → List Token
  | star signs => .star :: signTokens signs
  | adjacent => []

def value : Link → ℚ
  | star signs => signValue signs
  | adjacent => 1

end Link

mutual

/-- Sums of signed terms; every term but the first has at least one sign. -/
inductive Sentence
  | first (signs : List Bool) (term : Term)
  | next (left : Sentence) (sign : Bool) (signs : List Bool) (term : Term)

/-- Products of primaries. -/
inductive Term
  | first (signs : List Bool) (primary : Primary)
  | next (left : Term) (link : Link) (primary : Primary)

/-- What a product is made of. -/
inductive Primary
  | number (value : Decimal)
  | symbol (name : String)
  | multiple (value : Decimal) (name : String)
  | group (inner : Sentence)

end

/-! ## Tokens -/

mutual

def Sentence.tokens : Sentence → List Token
  | .first signs term => signTokens signs ++ term.tokens
  | .next left sign signs term =>
      left.tokens ++ (signTokens (sign :: signs) ++ term.tokens)

def Term.tokens : Term → List Token
  | .first signs primary => signTokens signs ++ primary.tokens
  | .next left link primary => left.tokens ++ (link.tokens ++ primary.tokens)

def Primary.tokens : Primary → List Token
  | .number value => [.number value]
  | .symbol name => [.symbol name]
  | .multiple value name => [.number value, .symbol name]
  | .group inner => .opening :: (inner.tokens ++ [.closing])

end

theorem Primary.tokens_ne_nil (primary : Primary) : primary.tokens ≠ [] := by
  cases primary with
  | number | symbol | multiple | group => exact List.cons_ne_nil _ _

theorem Term.tokens_ne_nil (term : Term) : term.tokens ≠ [] := by
  cases term with
  | first signs primary => exact List.append_ne_nil_of_right_ne_nil _ primary.tokens_ne_nil
  | next left link primary =>
      exact List.append_ne_nil_of_right_ne_nil _
        (List.append_ne_nil_of_right_ne_nil _ primary.tokens_ne_nil)

theorem Sentence.tokens_ne_nil (sentence : Sentence) : sentence.tokens ≠ [] := by
  cases sentence with
  | first signs term => exact List.append_ne_nil_of_right_ne_nil _ term.tokens_ne_nil
  | next left sign signs term =>
      exact List.append_ne_nil_of_right_ne_nil _
        (List.append_ne_nil_of_right_ne_nil _ term.tokens_ne_nil)

/-! ## Depth of brackets -/

mutual

def Sentence.nesting : Sentence → Nat
  | .first _ term => term.nesting
  | .next left _ _ term => max left.nesting term.nesting

def Term.nesting : Term → Nat
  | .first _ primary => primary.nesting
  | .next left _ primary => max left.nesting primary.nesting

def Primary.nesting : Primary → Nat
  | .group inner => inner.nesting + 1
  | _ => 0

end

/-! ## Values -/

mutual

def Sentence.value (assignment : String → ℚ) : Sentence → ℚ
  | .first signs term => signValue signs * term.value assignment
  | .next left sign signs term =>
      left.value assignment + signValue (sign :: signs) * term.value assignment

def Term.value (assignment : String → ℚ) : Term → ℚ
  | .first signs primary => signValue signs * primary.value assignment
  | .next left link primary =>
      left.value assignment * (link.value * primary.value assignment)

def Primary.value (assignment : String → ℚ) : Primary → ℚ
  | .number value => value.toRat
  | .symbol name => assignment name
  | .multiple value name => value.toRat * assignment name
  | .group inner => inner.value assignment

end

end Grammar
end PolyMatrix
