import PolyMatrix.Proofs.Expression.Skipping

/-!
# Brackets around nothing in front of a sign

Brackets around nothing contribute nothing to a sum, but if a term has no other factor the
sum ends with them.  Outside of all brackets the sign behind them is then skipped, and the
term behind the sign is added whatever the sign is.
-/

namespace PolyMatrix

open Expression

namespace Expression

/-- Where a term begins, brackets around nothing and a sign end the outermost sum. -/
theorem Reader.result_readAll_emptyBrackets
    {source : String} {total : Expression} {current : OpenSum}
    (noFactor : current.product = none)
    (negative : Bool)
    (rest : List Piece) :
    (Reader.readAll source ⟨total, current, []⟩
        (.opening :: .closing :: .sign negative :: rest)).result =
      (Reader.readAll source { total := total.extend current.total } rest).result := by
  have room : ([] : List OpenSum).length < nestingLimit := by decide
  have opens := (read_opening source ⟨total, current, []⟩ room).result
  have closes : (Reader.read source ⟨total, {}, [current]⟩ .closing).result =
      .ok ⟨total, { current with touched := true, place := .joint }, []⟩ :=
    (read_closing current).result
  have ends : (OpenSum.read { current with touched := true, place := .joint }
      (.sign negative)).value = .outward current.total := by
    change (OpenSum.endAtSign _ negative).value = _
    rw [OpenSum.endAtSign, noFactor]
    rfl
  rw [result_readAll_cons opens, result_readAll_cons closes,
    result_readAll_cons (result_read_of_outward ends)]

end Expression

namespace Grammar

theorem Term.signs_attach (name : String) (term : Term) :
    (term.attach name).signs = term.signs := by
  unfold Term.attach
  split <;> rfl

/-- Joining keeps the signs at the front of a term. -/
theorem Term.signs_joined (term : Term) : term.joined.signs = term.signs := by
  cases term with
  | first signs primary => rfl
  | next left link primary =>
      have front := Term.signs_joined left
      by_cases follows : ∃ name, link = .adjacent ∧ primary = .symbol name
      · obtain ⟨name, rfl, rfl⟩ := follows
        rw [Term.joined, Term.signs_attach, front, Term.signs]
      · rw [Term.joined_next left fun name adjacent symbol => follows ⟨name, adjacent, symbol⟩,
          Term.signs, front, Term.signs]

/-- A sign in front of a term without signs of its own, and the same behind a sentence. -/
theorem Sentence.expression_joined_unsigned
    {term : Term}
    (unsigned : term.signs = [])
    (negative : Bool) :
    (Sentence.first [] term).joined.expression = .sum .zero false term.joined.expression ∧
      (Sentence.first [negative] term).joined.expression =
        .sum .zero negative term.joined.expression ∧
      ∀ left : Sentence, (Sentence.next left negative [] term).joined.expression =
        .sum left.joined.expression negative term.joined.expression := by
  have signs : term.joined.signs = [] := term.signs_joined.trans unsigned
  refine ⟨?_, ?_, fun left => ?_⟩
  · rw [Sentence.joined, Sentence.expression, signs]
    rfl
  · rw [Sentence.joined, Sentence.expression, signs]
    cases negative <;> rfl
  · rw [Sentence.joined, Sentence.expression, signs]
    rfl

/-- The tokens of a sign, of a term behind it, and of brackets around nothing in front. -/
def afterEmptyBrackets (negative : Bool) (term : Term) : List Token :=
  .opening :: .closing :: (signTokens [negative] ++ term.tokens)

theorem ofTokens_afterEmptyBrackets (negative : Bool) (term : Term) :
    Piece.ofTokens (afterEmptyBrackets negative term) =
      .opening :: .closing :: .sign negative :: term.joined.pieces := by
  have pieces := (Sentence.first [negative] term).ofTokens_tokens
  exact congrArg (fun rest => Piece.opening :: Piece.closing :: rest) pieces

variable {term : Term} (shallow : term.nesting ≤ nestingLimit)
include shallow

/-- Behind brackets around nothing the sign of the first term is lost. -/
theorem result_ofTokens_afterEmptyBrackets (source : String) (negative : Bool) :
    (Expression.ofTokens source (afterEmptyBrackets negative term)).result =
      .ok (.sum .zero false (Sentence.first [] term).joined.expression) := by
  let alone : Sentence := .first [] term
  have reads : Reader.readAll source {} alone.joined.pieces = _ :=
    Sentence.readAll_joined source .zero shallow
  rw [Expression.ofTokens, ofTokens_afterEmptyBrackets]
  refine (Reader.result_readAll_emptyBrackets rfl negative _).trans ?_
  exact congrArg Attempt.result reads

/-- Behind a sentence, brackets around nothing end it, and the term behind the next sign is
added. -/
theorem Sentence.result_ofTokens_emptyBrackets
    {sentence : Sentence}
    (shallowSentence : sentence.nesting ≤ nestingLimit)
    (source : String)
    (negative : Bool) :
    (Expression.ofTokens source
        (sentence.tokens ++ .plus :: afterEmptyBrackets negative term)).result =
      .ok (.sum (.sum .zero false sentence.joined.expression) false
        (Sentence.first [] term).joined.expression) := by
  let alone : Sentence := .first [] term
  have reads : Reader.readAll source
      { total := .sum .zero false sentence.joined.expression } alone.joined.pieces = _ :=
    Sentence.readAll_joined source _ shallow
  have pieces : Piece.ofTokens (sentence.tokens ++ .plus :: afterEmptyBrackets negative term) =
      sentence.joined.pieces ++ .sign false :: .opening :: .closing :: .sign negative ::
        term.joined.pieces := by
    rw [sentence.ofTokens_append (fun name behind same => by cases same),
      ← ofTokens_afterEmptyBrackets]
    rfl
  have plus := advance_onward (sentence.joined.read_sign_state false) []
  rw [Expression.ofTokens, pieces]
  refine (congrArg Attempt.result
    (Sentence.readAll_joined_append source .zero shallowSentence _)).trans ?_
  rw [readAll_of_advance plus]
  refine (Reader.result_readAll_emptyBrackets rfl negative _).trans ?_
  exact congrArg Attempt.result reads

end Grammar
end PolyMatrix
