import Mathlib.Data.Nat.Cast.Field
import Mathlib.Tactic.NormNum
import PolyMatrix.Polynomial.OfExpression
import PolyMatrix.Proofs.Expression.Layout
import PolyMatrix.Proofs.Expression.Reading
import PolyMatrix.Proofs.Polynomial.Meaning

/-!
# Sentences are read as what they mean

A sentence of the grammar, however it is laid out, is read without faults and
notices, and the polynomial that is read has the value that arithmetic gives to the
sentence.
-/

namespace PolyMatrix

/-! ## Values of expressions -/

/-- The polynomial of an expression has the value of the expression. -/
theorem Expression.eval_toPolynomial
    (assignment : String → ℤ)
    (expression : Expression) :
    (expression.toPolynomial : Polynomial ℤ).eval assignment =
      expression.eval assignment := by
  have single : ∀ name, (Monomial.ofSymbols [name]).eval assignment =
      assignment name := fun name => mul_one (assignment name)
  induction expression with
  | zero => rfl
  | number value => exact Polynomial.eval_constant assignment _
  | symbol name =>
      rw [toPolynomial, Polynomial.eval_ofTerm, single]
      exact one_mul (assignment name)
  | multiple value name =>
      rw [toPolynomial, Polynomial.eval_ofTerm, single]
      rfl
  | signed negative operand inductionHypothesis =>
      rw [toPolynomial, Polynomial.eval_scale, inductionHypothesis]
      rfl
  | product left right leftHypothesis rightHypothesis =>
      rw [toPolynomial, Polynomial.eval_multiply, leftHypothesis, rightHypothesis]
      rfl
  | sum left negative right leftHypothesis rightHypothesis =>
      rw [toPolynomial, Polynomial.eval_accumulateScaled, leftHypothesis,
        rightHypothesis]
      rfl

namespace Grammar

variable {assignment : String → ℤ}

/-! ## Values of trees -/

/-- A whole number keeps its value as an integer coefficient. -/
theorem cast_ofDecimal
    {value : Decimal}
    (isWhole : value.IsWhole) :
    ((Coefficient.ofDecimal value : ℤ) : ℚ) = value.toRat := by
  have positive : (value.denominator : ℚ) ≠ 0 := by
    exact_mod_cast (Nat.pow_pos (by decide : 0 < 10)).ne'
  change (((value.mantissa / value.denominator : ℕ) : ℤ) : ℚ) = _
  rw [Int.cast_natCast, Nat.cast_div isWhole positive]
  rfl

theorem signValue_cons (sign : Bool) (signs : List Bool) :
    signValue (sign :: signs) = (if sign then -1 else 1) * signValue signs := by
  rw [signValue, List.map_cons, List.prod_cons]
  rfl

theorem signValue_append (first second : List Bool) :
    signValue (first ++ second) = signValue first * signValue second := by
  rw [signValue, List.map_append, List.prod_append]
  rfl

theorem cast_sign (negative : Bool) :
    ((Coefficient.sign negative : ℤ) : ℚ) = if negative then -1 else 1 := by
  cases negative with
  | false => exact Int.cast_one
  | true => exact (Int.cast_neg 1).trans (congrArg Neg.neg Int.cast_one)

/-- The parity of signs is the sign of their product. -/
theorem cast_sign_parity (negative : Bool) (signs : List Bool) :
    ((Coefficient.sign (parity negative signs) : ℤ) : ℚ) =
      signValue (negative :: signs) := by
  induction signs generalizing negative with
  | nil =>
      rw [signValue_cons]
      exact (cast_sign negative).trans (mul_one _).symm
  | cons sign later inductionHypothesis =>
      refine (inductionHypothesis (negative ^^ sign)).trans ?_
      rw [signValue_cons, signValue_cons, signValue_cons, ← mul_assoc]
      cases negative <;> cases sign <;> simp

theorem Link.cast_sign_negative (link : Link) :
    ((Coefficient.sign link.place.negative : ℤ) : ℚ) = link.value := by
  cases link with
  | adjacent => exact cast_sign false
  | star signs =>
      cases signs with
      | nil => exact cast_sign false
      | cons sign later => exact cast_sign_parity sign later

theorem cast_eval_zero : ((Expression.zero.eval assignment : ℤ) : ℚ) = 0 :=
  Int.cast_zero

mutual

theorem Sentence.eval_expression
    (sentence : Sentence)
    (allWhole : ∀ token ∈ sentence.tokens, token.IsWhole) :
    ((sentence.expression.eval assignment : ℤ) : ℚ) =
      sentence.value fun name => assignment name := by
  cases sentence with
  | first signs term =>
      rw [Sentence.tokens, List.forall_mem_append] at allWhole
      have termValue := Term.eval_expression term allWhole.2
      rw [Sentence.expression, Expression.eval, Int.cast_add, cast_eval_zero, zero_add,
        Int.cast_mul, cast_sign_parity, signValue_cons, if_neg Bool.false_ne_true,
        one_mul, signValue_append, mul_assoc, termValue, Sentence.value]
  | next left sign signs term =>
      rw [Sentence.tokens, List.forall_mem_append, List.forall_mem_append] at allWhole
      have leftValue := Sentence.eval_expression left allWhole.1
      have termValue := Term.eval_expression term allWhole.2.2
      rw [Sentence.expression, Expression.eval, Int.cast_add, Int.cast_mul, leftValue,
        cast_sign_parity, signValue_cons, signValue_append, mul_assoc, mul_assoc,
        termValue, Sentence.value, signValue_cons, mul_assoc]

theorem Term.eval_expression
    (term : Term)
    (allWhole : ∀ token ∈ term.tokens, token.IsWhole) :
    signValue term.signs * ((term.expression.eval assignment : ℤ) : ℚ) =
      term.value fun name => assignment name := by
  cases term with
  | first signs primary =>
      rw [Term.tokens, List.forall_mem_append] at allWhole
      have primaryValue := Primary.eval_expression primary allWhole.2
      rw [Term.expression, Expression.eval, Int.cast_mul, cast_sign, primaryValue,
        Term.value, Term.signs, if_neg Bool.false_ne_true, one_mul]
  | next left link primary =>
      rw [Term.tokens, List.forall_mem_append, List.forall_mem_append] at allWhole
      have leftValue := Term.eval_expression left allWhole.1
      have primaryValue := Primary.eval_expression primary allWhole.2.2
      rw [Term.expression, Expression.eval, Expression.eval, Int.cast_mul, Int.cast_mul,
        Link.cast_sign_negative, primaryValue, Term.signs, ← mul_assoc, leftValue,
        Term.value]

theorem Primary.eval_expression
    (primary : Primary)
    (allWhole : ∀ token ∈ primary.tokens, token.IsWhole) :
    ((primary.expression.eval assignment : ℤ) : ℚ) =
      primary.value fun name => assignment name := by
  cases primary with
  | number value => exact cast_ofDecimal (allWhole (.number value) List.mem_cons_self)
  | symbol name => rfl
  | multiple value name =>
      have isWhole : value.IsWhole := allWhole (.number value) List.mem_cons_self
      rw [Primary.expression, Expression.eval, Int.cast_mul, cast_ofDecimal isWhole,
        Primary.value]
  | group inner =>
      rw [Primary.tokens, List.forall_mem_cons, List.forall_mem_append] at allWhole
      exact Sentence.eval_expression inner allWhole.2.1

end

end Grammar

namespace Polynomial

open Grammar

/-- A sentence without fractions, whose brackets fit below the limit and whose text
keeps its tokens apart, is read without notices as a polynomial with the value of
the sentence. -/
theorem parse_sentence
    {sentence : Sentence} {source : String}
    (allWhole : ∀ token ∈ sentence.tokens, token.IsWhole)
    (shallow : sentence.nesting ≤ Expression.nestingLimit)
    (written : Token.Written sentence.tokens source.toList) :
    ∃ p : Polynomial ℤ,
      (parse source).result = .ok p ∧
        (parse source : Attempt (Polynomial ℤ)).notices = [] ∧
        ∀ assignment : String → ℤ,
          ((p.eval assignment : ℤ) : ℚ) =
            sentence.value fun name => assignment name := by
  let expression : Expression := .sum .zero false sentence.joined.expression
  have reads : (parse source : Attempt (Polynomial ℤ)) =
      pure expression.toPolynomial := by
    rw [parse, Expression.parse, Token.scan, written.scanFrom_eq, pure_bind,
      sentence.expression_ofTokens source shallow, pure_bind]
  refine ⟨expression.toPolynomial, ?_, ?_, ?_⟩
  · rw [reads, Attempt.result_pure]
  · rw [reads]
    rfl
  · intro assignment
    obtain ⟨tokens, -, value⟩ :=
      sentence.joined_keeps fun name => (assignment name : ℚ)
    rw [← tokens] at allWhole
    rw [Expression.eval_toPolynomial, Expression.eval, Int.cast_add, cast_eval_zero,
      zero_add, Int.cast_mul, cast_sign, if_neg Bool.false_ne_true, one_mul,
      sentence.joined.eval_expression allWhole, value]

/-- In `2x −(-y)3 * -z`, with a number next to a symbol and both kinds of minus. -/
theorem parse_sentence_signs :
    let product : Term :=
      .next
        (.next (.first [] (.group (.first [true] (.first [] (.symbol "y")))))
          .adjacent (.number ⟨3, 0⟩))
        (.star [true]) (.symbol "z")
    let sentence : Sentence :=
      .next (.first [] (.next (.first [] (.number ⟨2, 0⟩)) .adjacent (.symbol "x")))
        true [] product
    let source := String.ofList
      ['2', 'x', ' ', '\u2212', '(', '-', 'y', ')', '3', ' ', '*', ' ', '-', 'z']
    (∀ token ∈ sentence.tokens, token.IsWhole) ∧
      sentence.nesting ≤ Expression.nestingLimit ∧
      Token.Written sentence.tokens source.toList ∧
      ∃ p : Polynomial ℤ,
        (parse source).result = .ok p ∧
          (parse source : Attempt (Polynomial ℤ)).notices = [] ∧
          ((p.eval fun name => if name = "x" then 5 else if name = "y" then 7 else 2 :
            ℤ) : ℚ) = -32 := by
  intro product sentence source
  have allWhole : ∀ token ∈ sentence.tokens, token.IsWhole := by decide
  have shallow : sentence.nesting ≤ Expression.nestingLimit := by decide
  have written : Token.Written sentence.tokens source.toList := by
    rw [String.toList_ofList]
    change Token.Written _
      (['2'] ++ (['x'] ++ (' ' :: (['\u2212'] ++ (['('] ++ (['-'] ++ (['y'] ++
        ([')'] ++ (['3'] ++ (' ' :: (['*'] ++ (' ' :: (['-'] ++ (['z'] ++ []))))))))))))))
    have two : Token.Spells (.number ⟨Nat.ofDigitChars 10 ['2'] 0, 0⟩) ['2'] :=
      .whole (List.forall_mem_singleton.mpr rfl) (List.cons_ne_nil _ _)
    have three : Token.Spells (.number ⟨Nat.ofDigitChars 10 ['3'] 0, 0⟩) ['3'] :=
      .whole (List.forall_mem_singleton.mpr rfl) (List.cons_ne_nil _ _)
    exact .word two rfl <| .word (.symbol rfl) rfl <| .blank rfl <|
      .word .minus trivial <| .word .opening trivial <| .word .hyphen trivial <|
      .word (.symbol rfl) rfl <| .word .closing trivial <| .word three rfl <|
      .blank rfl <| .word .star trivial <| .blank rfl <| .word .hyphen trivial <|
      .word (.symbol rfl) trivial .nil
  obtain ⟨p, read, silent, value⟩ := parse_sentence allWhole shallow written
  refine ⟨allWhole, shallow, written, p, read, silent, ?_⟩
  rw [value]
  simp only [sentence, product, Sentence.value, Term.value, Primary.value, Link.value,
    signValue, Decimal.toRat, Decimal.denominator]
  have yx : "y" ≠ "x" := by decide
  have zx : "z" ≠ "x" := by decide
  have zy : "z" ≠ "y" := by decide
  norm_num [yx, zx, zy]

end Polynomial
end PolyMatrix
