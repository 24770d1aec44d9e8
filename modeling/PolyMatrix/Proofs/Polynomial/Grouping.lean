import PolyMatrix.Proofs.Expression.Grouping
import PolyMatrix.Proofs.Polynomial.Construction
import PolyMatrix.Proofs.Polynomial.Unital

/-!
# Products with a text in brackets

A text in brackets with a symbol behind it is read as the product of the two, if no
bracket was closed early on the way.  If one was, which a notice tells, it is read as
their sum.
-/

namespace PolyMatrix

open Expression (Bracketed nestingLimit)

namespace Polynomial

variable {K : Type} [Add K] [Neg K] [Mul K] [Coefficient K]

/-- Expressions denote polynomials without remarks. -/
theorem note_toPolynomial (expression : Expression) :
    (expression.toPolynomial : Polynomial K).note = none := by
  induction expression with
  | zero => rfl
  | number value => exact note_accumulate zero .unit _
  | symbol name => exact note_accumulate zero _ _
  | multiple value name => exact note_accumulate zero _ _
  | signed negative operand operandHypothesis => exact note_multiplyTerm _ _ _
  | product left right leftHypothesis rightHypothesis => exact note_multiply _ _
  | sum left negative right leftHypothesis rightHypothesis =>
      exact (note_foldl_accumulate _ _ _ _).trans leftHypothesis

theorem withoutNote_toPolynomial (expression : Expression) :
    (expression.toPolynomial : Polynomial K).withoutNote = expression.toPolynomial :=
  eq_of_terms_eq rfl (note_toPolynomial expression).symm

section Unital

variable [Coefficient.Unital K]

/-- Taken alone, an expression denotes the same polynomial in a sum and as a factor. -/
theorem toPolynomial_alone (expression : Expression) :
    (Expression.sum .zero false expression).toPolynomial =
        (expression.toPolynomial : Polynomial K) ∧
      (Expression.signed false expression).toPolynomial =
        (expression.toPolynomial : Polynomial K) := by
  have canonical : (expression.toPolynomial : Polynomial K).Canonical :=
    canonical_toPolynomial expression
  constructor
  · exact canonical.accumulateScaled_one.trans (withoutNote_toPolynomial expression)
  · exact canonical.scale_one.trans (withoutNote_toPolynomial expression)

/-- A text with balanced brackets and something in it, in brackets and with a symbol
behind it, is read as the product of the two if no bracket was closed early.  If one was,
the last bracket has nothing to close, and the symbol is added to what was read in front
of it. -/
theorem parse_group_times
    {text name : String}
    {tokens : List Token}
    (scans : (Token.scan text).result = .ok tokens)
    {depth : Nat}
    (bracketed : Bracketed .opening .closing depth tokens)
    (shallow : depth < nestingLimit)
    {token : Token}
    (operand : token.IsOperand)
    (member : token ∈ tokens)
    (isName : Text.isName name.toList = true) :
    ∃ inner group : Polynomial K,
      (parse text).result = .ok inner ∧ (parse ("(" ++ text ++ ")")).result = .ok group ∧
      let whole : Attempt (Polynomial K) := parse ("(" ++ text ++ ") * " ++ name)
      (.missingBracket ∉ whole.notices → whole.result =
        .ok (inner.multiply (ofTerm (.ofSymbols [name]) Coefficient.one))) ∧
      (.missingBracket ∈ whole.notices → whole.result =
        .ok (group.add (ofTerm (.ofSymbols [name]) Coefficient.one))) := by
  have symbol : (Expression.signed false (.symbol name)).toPolynomial =
      (ofTerm (.ofSymbols [name]) Coefficient.one : Polynomial K) :=
    (toPolynomial_alone (.symbol name)).2
  have scansGroup := (Expression.scan_group scans isName).1.result
  obtain ⟨innerRead, readsInner⟩ :=
    Expression.exists_parse scans bracketed (Nat.le_of_lt shallow)
  obtain ⟨groupRead, readsGroup⟩ :=
    Expression.exists_parse scansGroup (.group bracketed .nil) shallow
  refine ⟨innerRead.toPolynomial, groupRead.toPolynomial, ?_, ?_, ?_⟩
  · rw [result_parse, readsInner]
    rfl
  · rw [result_parse, readsGroup]
    rfl
  · intro whole
    have notices : whole.notices =
        (Expression.parse ("(" ++ text ++ ") * " ++ name)).notices :=
      Attempt.notices_bind_pure _ _
    have result : whole.result = (Expression.parse ("(" ++ text ++ ") * " ++ name)).result.map
        Expression.toPolynomial := result_parse _
    rw [notices, result]
    rcases Expression.parse_group_product_or_sum scans bracketed shallow operand member
      isName with ⟨inner, reads, whole⟩ | ⟨group, reads, readsWhole, noticed⟩
    · cases readsInner.symm.trans reads
      refine ⟨fun _ => ?_, fun noticed => absurd noticed whole.silent⟩
      rw [whole.result, Except.map, (toPolynomial_alone _).1, (toPolynomial_alone _).1,
        (toPolynomial_alone _).1, Expression.toPolynomial, (toPolynomial_alone inner).2,
        symbol]
    · cases readsGroup.symm.trans reads
      refine ⟨fun silent => absurd noticed silent, fun _ => ?_⟩
      rw [readsWhole, Except.map, Expression.toPolynomial, (toPolynomial_alone _).1, symbol,
        add, addScaled, withoutNote_toPolynomial]
      rfl

end Unital

/-- A star without a left factor and brackets around nothing leave the product alone. -/
theorem parse_group_times_lenient :
    ∃ inner : Polynomial ℤ, (parse "x + * y ()").result = .ok inner ∧
      (parse "(x + * y ()) * z").result =
        .ok (inner.multiply (ofTerm (.ofSymbols ["z"]) Coefficient.one)) := by
  have scans : (Token.scan "x + * y ()").result =
      .ok [.symbol "x", .plus, .star, .symbol "y", .opening, .closing] := by
    decide +kernel
  have bracketed : Bracketed .opening .closing 1
      [.symbol "x", .plus, .star, .symbol "y", Token.opening, .closing] := by
    refine .plain ?_ ?_ (.plain ?_ ?_ (.plain ?_ ?_ (.plain ?_ ?_ (.group .nil .nil))))
    all_goals decide
  have silent : .missingBracket ∉
      (parse "(x + * y ()) * z" : Attempt (Polynomial ℤ)).notices := by
    decide +kernel
  obtain ⟨inner, group, readsInner, -, product, -⟩ := parse_group_times scans bracketed
    (by decide) (by trivial : (Token.symbol "x").IsOperand) List.mem_cons_self
    (by decide : Text.isName "z".toList = true)
  exact ⟨inner, readsInner, product silent⟩

/-- Of two stars in a row the second one ends the sum in the brackets, and the factor
behind them is added. -/
theorem parse_group_times_two_stars :
    (Token.scan "x * *").result = .ok [.symbol "x", .star, .star] ∧
      (parse "x * *" : Attempt (Polynomial ℤ)).result.map terms =
        .ok (ofTerm (.ofSymbols ["x"]) 1).terms ∧
      (parse "(x * *) * z" : Attempt (Polynomial ℤ)).result.map terms =
        .ok ((ofTerm (.ofSymbols ["x"]) 1).add (ofTerm (.ofSymbols ["z"]) 1)).terms ∧
      (parse "(x * *) * z" : Attempt (Polynomial ℤ)).result.map terms ≠
        .ok ((ofTerm (.ofSymbols ["x"]) 1).multiply (ofTerm (.ofSymbols ["z"]) 1)).terms := by
  decide +kernel

end Polynomial
end PolyMatrix
