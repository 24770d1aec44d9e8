import PolyMatrix.Proofs.Expression.Moves

/-!
# The limit on open brackets

Reading has a fault only where a bracket opens and the limit is reached.  No more brackets
are open than the text in front of it explains, so a fault means that the text exceeds the
limit there.  Conversely a sentence that exceeds the limit is refused, since everything in
front of its innermost brackets is read as by itself.
-/

namespace PolyMatrix

open Expression

/-! ## Faults -/

namespace Expression

/-- A fault tells that the brackets of the tokens exceed the limit somewhere. -/
theorem exists_front_of_fault
    {source : String} {tokens : List Token} {fault : Fault}
    (fails : (ofTokens source tokens).result = .error fault) :
    fault = .nestedTooDeep nestingLimit ∧ ∃ front, front <+: tokens ∧
      nestingLimit < bracketDepth Token.opening .closing front := by
  obtain ⟨count, last, run, ends⟩ := (Position.start tokens).exists_run source
  have stops : ((Position.start tokens).readAll source).result = .error fault := fails
  rw [stops] at ends
  -- The last move finds a bracket that opens, with as many open as the limit allows.
  cases Position.outcome_of_move ends with
  | @fault rest full opens =>
      have nothing : (Position.start tokens).height ≤ bracketDepth Piece.opening .closing [] :=
        le_refl 0
      obtain ⟨front, pieces, explained⟩ := run.exists_front nothing
      rw [List.nil_append] at explained
      have begins : front ++ [.opening] <+: Piece.ofTokens tokens := by
        refine ⟨rest, ?_⟩
        rw [List.append_assoc, List.singleton_append, ← opens]
        exact pieces.symm
      obtain ⟨tokenFront, tokensBegin, same⟩ :=
        exists_front_of_brackets_eq (brackets_ofTokens tokens) begins
      refine ⟨rfl, tokenFront, tokensBegin, ?_⟩
      rw [same, bracketDepth_append_singleton]
      exact Nat.lt_succ_of_le (full.trans explained)

/-- An opening bracket is refused where too many are open. -/
theorem result_readAll_opening
    {outer : List OpenSum}
    (full : nestingLimit ≤ outer.length)
    (source : String)
    (total : Expression)
    (current : OpenSum)
    (rest : List Piece) :
    (Reader.readAll source ⟨total, current, outer⟩ (.opening :: rest)).result =
      .error (.nestedTooDeep nestingLimit) := by
  have inward : current.read .opening = pure (.inward current) := rfl
  rw [Reader.readAll, Reader.read, advance.eq_def]
  simp only [inward, if_neg (Nat.not_lt.mpr full)]
  rfl

end Expression

/-! ## Sentences beyond the limit -/

namespace Grammar

mutual

/-- A sentence whose brackets exceed the limit is refused, whatever follows. -/
theorem Sentence.result_readAll_deep
    (sentence : Sentence)
    {source : String} {total : Expression} {outer : List OpenSum}
    (within : outer.length ≤ nestingLimit)
    (deep : nestingLimit < outer.length + sentence.nesting)
    (rest : List Piece) :
    (Reader.readAll source ⟨total, {}, outer⟩ (sentence.pieces ++ rest)).result =
      .error (.nestedTooDeep nestingLimit) := by
  cases sentence with
  | first signs term =>
      rw [Sentence.pieces, List.append_assoc]
      have front : Reader.readAll source ⟨total, {}, outer⟩
          (signPieces signs ++ (term.pieces ++ rest)) = _ :=
        readAll_signs none false false signs _
      rw [front]
      exact term.result_readAll_deep within deep rest
  | next left sign signs term =>
      rw [Sentence.pieces, List.append_assoc, List.append_assoc]
      rw [Sentence.nesting] at deep
      rcases Nat.lt_or_ge nestingLimit (outer.length + left.nesting) with leftDeep | room
      · exact left.result_readAll_deep within leftDeep _
      · have termDeep : nestingLimit < outer.length + term.nesting := by omega
        rw [left.readAll_pieces room, left.readAll_signs]
        exact term.result_readAll_deep within termDeep rest

theorem Term.result_readAll_deep
    (term : Term)
    {source : String} {total : Expression} {outer : List OpenSum}
    (within : outer.length ≤ nestingLimit)
    (deep : nestingLimit < outer.length + term.nesting)
    {sum : Option Expression} {negative touched : Bool}
    (rest : List Piece) :
    (Reader.readAll source ⟨total, before sum negative touched, outer⟩
        (term.pieces ++ rest)).result = .error (.nestedTooDeep nestingLimit) := by
  cases term with
  | first signs primary =>
      rw [Term.pieces, List.append_assoc, readAll_signs]
      exact primary.result_readAll_deep within deep rest
  | next left link primary =>
      rw [Term.pieces, List.append_assoc, List.append_assoc]
      rw [Term.nesting] at deep
      rcases Nat.lt_or_ge nestingLimit (outer.length + left.nesting) with leftDeep | room
      · exact left.result_readAll_deep within leftDeep _
      · have primaryDeep : nestingLimit < outer.length + primary.nesting := by omega
        rw [left.readAll_pieces room, link.readAll_pieces]
        exact primary.result_readAll_deep within primaryDeep rest

theorem Primary.result_readAll_deep
    (primary : Primary)
    {source : String} {total : Expression} {outer : List OpenSum}
    (within : outer.length ≤ nestingLimit)
    (deep : nestingLimit < outer.length + primary.nesting)
    {current : OpenSum}
    (rest : List Piece) :
    (Reader.readAll source ⟨total, current, outer⟩ (primary.pieces ++ rest)).result =
      .error (.nestedTooDeep nestingLimit) := by
  cases primary with
  | number | symbol | multiple => exact absurd deep (Nat.not_lt.mpr within)
  | group inner =>
      rw [Primary.pieces, List.cons_append, List.append_assoc]
      rcases Nat.lt_or_ge outer.length nestingLimit with room | full
      · have innerDeep : nestingLimit < (current :: outer).length + inner.nesting := by
          rw [Primary.nesting] at deep
          rw [List.length_cons]
          omega
        have opened : (current :: outer).length ≤ nestingLimit := room
        rw [readAll_of_advance (advance_opening current room)]
        exact inner.result_readAll_deep opened innerDeep _
      · exact result_readAll_opening full source total current _

end

/-- A sentence beyond the limit has no expression. -/
theorem Sentence.result_ofTokens_deep
    (source : String)
    {sentence : Sentence}
    (deep : nestingLimit < sentence.nesting) :
    (Expression.ofTokens source sentence.tokens).result =
      .error (.nestedTooDeep nestingLimit) := by
  have joinedDeep : nestingLimit < ([] : List OpenSum).length + sentence.joined.nesting := by
    rw [List.length_nil, Nat.zero_add, sentence.nesting_joined]
    exact deep
  have refused : (({} : Reader).readAll source (sentence.joined.pieces ++ [])).result = _ :=
    sentence.joined.result_readAll_deep (Nat.zero_le _) joinedDeep []
  rw [List.append_nil] at refused
  rw [Expression.ofTokens, sentence.ofTokens_tokens]
  exact refused

end Grammar
end PolyMatrix
