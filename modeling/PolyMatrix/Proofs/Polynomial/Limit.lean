import PolyMatrix.Polynomial.OfExpression
import PolyMatrix.Coefficient.Exact
import PolyMatrix.Proofs.Expression.Limit

/-!
# Reading comes to an end within the limit

Every text is read in finitely many moves, and never with more brackets open than the
limit allows.  The limit is also the only thing that a text of tokens can fail by.
-/

namespace PolyMatrix

open Expression (Position Move nestingLimit)
open Expression.Position (Run)
open Grammar (Sentence)

namespace Polynomial

variable (K : Type) [Add K] [Neg K] [Mul K] [Coefficient K]

/-- How a text with the given tokens is read. -/
structure ReadsWithinLimit (source : String) (tokens : List Token) : Prop where
  /-- Some moves lead to a last one, which ends in what the text is read as. -/
  ends : ∃ (count : Nat) (last : Position) (outcome : Except Fault Expression),
    Run source count (.start tokens) last ∧
    (last.move source).result = outcome.map Move.done ∧
    (parse source : Attempt (Polynomial K)).result = outcome.map Expression.toPolynomial
  /-- No run is longer than twice the tokens, and none leads beyond the limit. -/
  bounded : ∀ count position, Run source count (.start tokens) position →
    count ≤ 2 * tokens.length ∧ position.height ≤ nestingLimit
  /-- The only fault is one of format, and then the brackets of the text exceed the
  limit somewhere. -/
  faults : ∀ fault, (parse source : Attempt (Polynomial K)).result = .error fault →
    fault = .nestedTooDeep nestingLimit ∧ fault.kind = .format ∧
      ∃ front, front <+: source.toList ∧ nestingLimit < bracketDepth '(' ')' front
  /-- A sentence that is nested too deep is refused. -/
  refuses : ∀ sentence : Sentence, sentence.tokens = tokens →
    nestingLimit < sentence.nesting →
    (parse source : Attempt (Polynomial K)).result = .error (.nestedTooDeep nestingLimit)

/-- Reading ends on every text: with the fault of a literal that is no number, or within
the limit. -/
theorem parse_within_limit (source : String) :
    (∀ fault, (Token.scan source).result = .error fault →
      (parse source : Attempt (Polynomial K)).result = .error fault) ∧
    ∀ tokens, (Token.scan source).result = .ok tokens →
      ReadsWithinLimit K source tokens := by
  constructor
  · intro fault fails
    rw [result_parse, Expression.parse, Attempt.result_bind, fails]
    rfl
  · intro tokens scans
    have reads : (Expression.parse source).result =
        (Expression.ofTokens source tokens).result := by
      rw [Expression.parse, Attempt.result_bind_of_result scans]
    have parses : (parse source : Attempt (Polynomial K)).result =
        (Expression.ofTokens source tokens).result.map Expression.toPolynomial := by
      rw [result_parse, reads]
    constructor
    case ends =>
      obtain ⟨count, last, run, ends⟩ := (Position.start tokens).exists_run source
      exact ⟨count, last, (Expression.ofTokens source tokens).result, run, ends, parses⟩
    case bounded =>
      intro count position run
      exact ⟨run.count_le, run.height_le (Nat.zero_le nestingLimit)⟩
    case faults =>
      intro fault fails
      rw [parses] at fails
      cases outcome : (Expression.ofTokens source tokens).result with
      | ok expression =>
          rw [outcome] at fails
          cases fails
      | error other =>
          rw [outcome] at fails
          cases fails
          obtain ⟨rfl, front, begins, exceeds⟩ := Expression.exists_front_of_fault outcome
          obtain ⟨textFront, textBegins, same⟩ :=
            exists_front_of_brackets_eq (Token.brackets_scanFrom scans) begins
          refine ⟨rfl, rfl, textFront, textBegins, ?_⟩
          rwa [same]
    case refuses =>
      rintro sentence rfl deep
      rw [parses, sentence.result_ofTokens_deep source deep]
      rfl

/-- A symbol in more brackets than are allowed is refused. -/
theorem parse_within_limit_deep :
    let text := String.ofList
      (List.replicate 257 '(' ++ 'x' :: List.replicate 257 ')')
    (parse text : Attempt (Polynomial ℤ)).result = .error (.nestedTooDeep 256) := by
  intro text
  let sentence : Sentence :=
    Nat.repeat (fun inner => .first [] (.first [] (.group inner))) 257
      (.first [] (.first [] (.symbol "x")))
  have scans : (Token.scan text).result = .ok sentence.tokens := by
    rw [Token.scan, String.toList_ofList]
    decide +kernel
  exact ((parse_within_limit ℤ text).2 sentence.tokens scans).refuses sentence rfl
    (by decide +kernel)

end Polynomial
end PolyMatrix
