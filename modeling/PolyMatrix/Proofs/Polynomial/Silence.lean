import PolyMatrix.Polynomial.OfExpression
import PolyMatrix.Coefficient.Exact
import PolyMatrix.Proofs.Expression.Leniency
import PolyMatrix.Proofs.Expression.Warnings

/-!
# Polynomials read without a warning

A text is read without a warning if its tokens are a sentence of the grammar.  There is
one other case: a star behind a factor, with nothing but signs between it and the end of
the sum, is passed over silently.
-/

namespace PolyMatrix

open Expression (nestingLimit)
open Grammar (Sentence withoutHanging)

namespace Polynomial

variable {K : Type} [Add K] [Neg K] [Mul K] [Coefficient K]

/-- A text is read without a fault and without a warning exactly as its expression is
read without any notice. -/
theorem parse_silent_iff_expression (source : String) :
    ((∃ p : Polynomial K, (parse source).result = .ok p) ∧
      ∀ notice ∈ (parse source : Attempt (Polynomial K)).notices,
        notice.level ≠ .warning) ↔
      ∃ expression, Expression.parse source = pure expression := by
  have notices : (parse source : Attempt (Polynomial K)).notices =
      (Expression.parse source).notices := Attempt.notices_bind_pure _ _
  rw [result_parse, notices]
  constructor
  · rintro ⟨⟨p, reads⟩, silent⟩
    cases reached : (Expression.parse source).result with
    | error fault =>
        rw [reached] at reads
        cases reads
    | ok expression =>
        refine ⟨expression, Attempt.eq_pure_iff.mpr ⟨reached, ?_⟩⟩
        exact List.eq_nil_iff_forall_not_mem.mpr fun notice member =>
          silent notice member (Expression.onlyWarns_parse source notice member)
  · rintro ⟨expression, silent⟩
    rw [silent]
    exact ⟨⟨_, rfl⟩, fun notice member => by cases member⟩

/-- A text in which no character is skipped is read without a warning if and only if it
has no tokens, or its tokens are a sentence that is not nested too deep, apart from stars
that nothing but signs follows up to the end of a sum. -/
theorem parse_silent_iff
    {source : String}
    {tokens : List Token}
    (scans : (Token.scan source).result = .ok tokens)
    (unskipped : (Token.scan source).notices = []) :
    ((∃ p : Polynomial K, (parse source).result = .ok p) ∧
      ∀ notice ∈ (parse source : Attempt (Polynomial K)).notices,
        notice.level ≠ .warning) ↔
      tokens = [] ∨ ∃ sentence : Sentence, sentence.nesting ≤ nestingLimit ∧
        withoutHanging tokens = sentence.tokens := by
  have tokenized : Token.scan source = pure tokens :=
    Attempt.eq_pure_iff.mpr ⟨scans, unskipped⟩
  rw [parse_silent_iff_expression, Expression.parse, tokenized, pure_bind]
  exact Grammar.ofTokens_eq_pure_iff source tokens

/-- In brackets nothing is told of a sign behind a star. -/
theorem parse_silent_group :
    (∃ p : Polynomial ℤ, (parse "(x * -) y").result = .ok p) ∧
      ∀ notice ∈ (parse "(x * -) y" : Attempt (Polynomial ℤ)).notices,
        notice.level ≠ .warning := by
  have scans : (Token.scan "(x * -) y").result =
      .ok [.opening, .symbol "x", .star, .minus, .closing, .symbol "y"] := by
    decide +kernel
  have unskipped : (Token.scan "(x * -) y").notices = [] := by
    decide +kernel
  let inner : Sentence := .first [] (.first [] (.symbol "x"))
  let sentence : Sentence :=
    .first [] (.next (.first [] (.group inner)) .adjacent (.symbol "y"))
  exact (parse_silent_iff scans unskipped).mpr
    (.inr ⟨sentence, by decide, by decide⟩)

/-- Of a sign behind the last star nothing is told, though no sentence ends with a
sign. -/
theorem parse_silent_last_sign :
    (Token.scan "x * +").result = .ok [.symbol "x", .star, .plus] ∧
      (Token.scan "x * +").notices = [] ∧
      (parse "x * +" : Attempt (Polynomial ℤ)).result.map terms =
        .ok (ofTerm (.ofSymbols ["x"]) 1).terms ∧
      (parse "x * +" : Attempt (Polynomial ℤ)).notices = [] ∧
      ∀ sentence : Sentence, sentence.tokens ≠ [.symbol "x", .star, .plus] := by
  refine ⟨by decide +kernel, by decide +kernel, by decide +kernel, by decide +kernel, ?_⟩
  intro sentence same
  have stripped := sentence.withoutHanging_tokens
  rw [same] at stripped
  revert stripped
  decide

end Polynomial
end PolyMatrix
