import PolyMatrix.Proofs.Expression.Silence

/-!
# Passing over hanging signs

A sum ends in the same way behind a factor and behind the signs of a factor that does not
come.  So where a sentence can be read, signs that hang behind its factors are passed over
without a notice.
-/

namespace PolyMatrix

open Expression

namespace Grammar

/-! ## Sums end behind factors -/

/-- If the second piece closes a bracket, the first one ends a factor. -/
def Closes (piece next : Piece) : Prop :=
  next = .closing → (∃ value, piece = .operand value) ∨ piece = .closing

theorem isChain_signPieces
    {rest : List Piece}
    (later : ∀ previous, (previous :: rest).IsChain Closes)
    (signs : List Bool)
    (previous : Piece) : (previous :: (signPieces signs ++ rest)).IsChain Closes := by
  induction signs generalizing previous with
  | nil => exact later previous
  | cons sign others inductionHypothesis =>
      exact List.isChain_cons_cons.mpr ⟨Piece.noConfusion, inductionHypothesis _⟩

theorem isChain_operand
    {rest : List Piece}
    (value : Expression)
    (later : (.operand value :: rest).IsChain Closes)
    (previous : Piece) : (previous :: .operand value :: rest).IsChain Closes :=
  List.isChain_cons_cons.mpr ⟨Piece.noConfusion, later⟩

/-- The pieces can follow any end of a factor. -/
def FollowsFactor (rest : List Piece) : Prop :=
  (∀ value, (.operand value :: rest).IsChain Closes) ∧ (.closing :: rest).IsChain Closes

theorem followsFactor_closing
    {rest : List Piece}
    (later : (.closing :: rest).IsChain Closes) : FollowsFactor (.closing :: rest) :=
  ⟨fun value => List.isChain_cons_cons.mpr ⟨fun _ => .inl ⟨value, rfl⟩, later⟩,
    List.isChain_cons_cons.mpr ⟨fun _ => .inr rfl, later⟩⟩

mutual

/-- In a sentence brackets are closed behind factors only, and it ends with a factor. -/
theorem Sentence.isChain
    (sentence : Sentence)
    {rest : List Piece}
    (follows : FollowsFactor rest)
    (previous : Piece) : (previous :: (sentence.pieces ++ rest)).IsChain Closes := by
  cases sentence with
  | first signs term =>
      rw [Sentence.pieces, List.append_assoc]
      exact isChain_signPieces (term.isChain follows) signs previous
  | next left sign signs term =>
      have later := isChain_signPieces (term.isChain follows) (sign :: signs)
      rw [Sentence.pieces, List.append_assoc, List.append_assoc]
      exact left.isChain ⟨fun value => later _, later _⟩ previous

theorem Term.isChain
    (term : Term)
    {rest : List Piece}
    (follows : FollowsFactor rest)
    (previous : Piece) : (previous :: (term.pieces ++ rest)).IsChain Closes := by
  cases term with
  | first signs primary =>
      rw [Term.pieces, List.append_assoc]
      exact isChain_signPieces (primary.isChain follows) signs previous
  | next left link primary =>
      have later (piece : Piece) :
          (piece :: (link.pieces ++ (primary.pieces ++ rest))).IsChain Closes := by
        cases link with
        | adjacent => exact primary.isChain follows piece
        | star signs =>
            exact List.isChain_cons_cons.mpr ⟨Piece.noConfusion,
              isChain_signPieces (primary.isChain follows) signs .star⟩
      rw [Term.pieces, List.append_assoc, List.append_assoc]
      exact left.isChain ⟨fun value => later _, later _⟩ previous

theorem Primary.isChain
    (primary : Primary)
    {rest : List Piece}
    (follows : FollowsFactor rest)
    (previous : Piece) : (previous :: (primary.pieces ++ rest)).IsChain Closes := by
  cases primary with
  | number value => exact isChain_operand _ (follows.1 _) previous
  | symbol name => exact isChain_operand _ (follows.1 _) previous
  | multiple value name => exact isChain_operand _ (follows.1 _) previous
  | group inner =>
      rw [Primary.pieces, List.cons_append, List.append_assoc]
      exact List.isChain_cons_cons.mpr
        ⟨Piece.noConfusion, inner.isChain (followsFactor_closing follows.2) .opening⟩

end

/-! ## Pieces with and without what hangs -/

theorem SumEnds.ofTokens
    {tokens : List Token}
    (ends : SumEnds tokens) : ∀ next ∈ (Piece.ofTokens tokens).head?, next = .closing := by
  cases tokens with
  | nil => rintro next ⟨⟩
  | cons first rest =>
      cases ends first rfl
      rintro next ⟨⟩
      rfl

/-- The second pieces are the first ones without what hangs in them. -/
inductive Passes : List Piece → List Piece → Prop
  | nil : Passes [] []
  | keep (piece : Piece) {pieces stripped : List Piece}
      (later : Passes pieces stripped) :
      Passes (piece :: pieces) (piece :: stripped)
  | hanging (sign : Bool) (signs : List Bool) {pieces stripped : List Piece}
      (ends : ∀ next ∈ pieces.head?, next = .closing)
      (later : Passes pieces stripped) :
      Passes (.star :: (signPieces (sign :: signs) ++ pieces)) stripped

/-- Signs in front are kept. -/
theorem Passes.of_signs
    {signs : List Bool} {pieces stripped : List Piece}
    (passes : Passes (signPieces signs ++ pieces) (signPieces signs ++ stripped)) :
    Passes pieces stripped := by
  induction signs with
  | nil => exact passes
  | cons sign others inductionHypothesis =>
      cases passes with
      | keep piece later => exact inductionHypothesis later

theorem unattached_withoutHanging
    {tokens : List Token}
    (unattached : Unattached tokens) : Unattached (withoutHanging tokens) := by
  intro name later same
  cases tokens with
  | nil => cases same
  | cons first rest =>
      by_cases star : first = .star
      · subst star
        by_cases hanging : hangs rest = true
        · obtain ⟨sign, signs, tail, rfl, ends⟩ := hangs_iff.mp hanging
          rw [withoutHanging_hanging sign signs ends] at same
          have closing := ends.withoutHanging (.symbol name) (by rw [same]; rfl)
          cases closing
        · rw [withoutHanging, if_neg hanging] at same
          cases same
      · rw [withoutHanging_cons star] at same
        cases same
        exact unattached name rest rfl

theorem passes_ofTokens (tokens : List Token) :
    Passes (Piece.ofTokens tokens) (Piece.ofTokens (withoutHanging tokens)) := by
  induction tokens using Piece.ofTokens.induct with
  | case1 => exact .nil
  | case2 value name rest inductionHypothesis => exact .keep _ inductionHypothesis
  | case3 value rest notSymbol inductionHypothesis =>
      rw [withoutHanging_cons Token.noConfusion, ofTokens_number value notSymbol,
        ofTokens_number value (unattached_withoutHanging notSymbol)]
      exact .keep _ inductionHypothesis
  | case4 | case5 | case6 | case8 | case9 =>
      rename_i inductionHypothesis
      exact .keep _ inductionHypothesis
  | case7 rest inductionHypothesis =>
      by_cases hanging : hangs rest = true
      · obtain ⟨sign, signs, tail, rfl, ends⟩ := hangs_iff.mp hanging
        rw [withoutHanging_signTokens, ofTokens_signTokens, ofTokens_signTokens]
          at inductionHypothesis
        have pieces : Piece.ofTokens (.star :: (signTokens (sign :: signs) ++ tail)) =
            .star :: (signPieces (sign :: signs) ++ Piece.ofTokens tail) :=
          (Link.star (sign :: signs)).ofTokens_append tail
        rw [withoutHanging_hanging sign signs ends, pieces]
        exact .hanging sign signs ends.ofTokens inductionHypothesis.of_signs
      · rw [withoutHanging, if_neg hanging]
        exact .keep .star inductionHypothesis

/-! ## Reading -/

/-- Behind a factor, signs of another one that does not come make no difference. -/
theorem readAll_of_head_closing
    {pieces : List Piece}
    (ends : ∀ next ∈ pieces.head?, next = .closing)
    (source : String)
    (total : Expression)
    (outer : List OpenSum)
    (sum : Option Expression)
    (negative : Bool)
    (product : Expression)
    (sign : Bool) :
    Reader.readAll source
        ⟨total, { behind sum negative product with place := .factor sign }, outer⟩ pieces =
      Reader.readAll source ⟨total, behind sum negative product, outer⟩ pieces := by
  cases pieces with
  | nil => cases outer <;> rfl
  | cons next rest =>
      cases ends next rfl
      rw [Reader.readAll, Reader.readAll, Reader.read, Reader.read, advance.eq_def,
        advance.eq_def]
      rfl

/-- Behind the end of a factor the innermost sum can end. -/
theorem exists_behind_of_advance
    {piece : Piece} {current next : OpenSum} {outer others : List OpenSum}
    (silent : advance piece current outer = pure (.reading next others))
    (ends : (∃ value, piece = .operand value) ∨ piece = .closing) :
    ∃ sum negative product, next = behind sum negative product := by
  have added (state : OpenSum) (value : Expression) :
      ∃ sum negative product, state.addFactor value = behind sum negative product := by
    unfold OpenSum.addFactor
    cases state.product with
    | none => exact ⟨_, _, _, rfl⟩
    | some product => exact ⟨_, _, _, rfl⟩
  rcases advance_eq_reading silent with
    ⟨onward, -⟩ | ⟨rfl, -⟩ | ⟨-, parent, inner, -, -, rfl⟩
  · rcases ends with ⟨value, rfl⟩ | rfl
    · cases Noted.pure_injective onward
      exact added current value
    · obtain ⟨sum, -, outward⟩ := Noted.bind_eq_pure onward
      cases Noted.pure_injective outward
  · rcases ends with ⟨value, same⟩ | same <;> cases same
  · exact added parent inner

/-- What hangs behind factors is passed over without notices. -/
theorem Passes.readAll
    {pieces stripped : List Piece}
    (passes : Passes pieces stripped)
    {source : String} {total final : Expression} {current : OpenSum}
    {outer : List OpenSum} {previous : Piece}
    (placed : (∃ value, previous = .operand value) ∨ previous = .closing →
      ∃ sum negative product, current = behind sum negative product)
    (chain : (previous :: (stripped ++ [.closing])).IsChain Closes)
    (silent : Reader.readAll source ⟨total, current, outer⟩ stripped = pure final) :
    Reader.readAll source ⟨total, current, outer⟩ pieces = pure final := by
  induction passes generalizing current outer previous with
  | nil => exact silent
  | keep piece later inductionHypothesis =>
      obtain ⟨next, others, advances, silent⟩ := readAll_cons_eq_pure silent
      rw [readAll_of_advance advances]
      exact inductionHypothesis (exists_behind_of_advance advances)
        (List.isChain_cons_cons.mp chain).2 silent
  | @hanging sign signs pieces stripped ends later inductionHypothesis =>
      -- Without the star and its signs, the end of the sum stands directly behind the piece
      -- in front of the star, so that piece ends a factor.
      have closed : ∃ others, stripped ++ [Piece.closing] = .closing :: others := by
        cases later with
        | nil => exact ⟨[], rfl⟩
        | keep piece later => exact ⟨_, congrArg (List.cons · _) (ends piece rfl)⟩
        | hanging => cases ends .star rfl
      obtain ⟨others, closed⟩ := closed
      rw [closed] at chain
      obtain ⟨sum, negative, product, rfl⟩ :=
        placed ((List.isChain_cons_cons.mp chain).1 rfl)
      refine ((Link.star (sign :: signs)).readAll_pieces sum negative product pieces).trans ?_
      refine (readAll_of_head_closing ends _ _ _ _ _ _ _).trans ?_
      refine inductionHypothesis placed ?_ silent
      rwa [closed]

/-- Tokens are read without notices if and only if there are none, or they are a sentence
that is not nested too deep, apart from what hangs in it. -/
theorem ofTokens_eq_pure_iff (source : String) (tokens : List Token) :
    (∃ expression, ofTokens source tokens = pure expression) ↔
      tokens = [] ∨ ∃ sentence : Sentence, sentence.nesting ≤ nestingLimit ∧
        withoutHanging tokens = sentence.tokens := by
  constructor
  · rintro ⟨expression, silent⟩
    exact ReadSoFar.exists_sentence (.outermost (.front [] false)) (cut_ofTokens tokens) silent
  · rintro (rfl | ⟨sentence, shallow, stripped⟩)
    · exact ⟨_, rfl⟩
    · have strict := sentence.expression_ofTokens source shallow
      have chain : (.opening :: (Piece.ofTokens sentence.tokens ++ [.closing])).IsChain
          Closes := by
        rw [sentence.ofTokens_tokens]
        exact sentence.joined.isChain (followsFactor_closing (.singleton _)) .opening
      rw [← stripped] at strict chain
      refine ⟨_, (passes_ofTokens tokens).readAll ?_ chain strict⟩
      rintro (⟨value, same⟩ | same) <;> cases same

end Grammar
end PolyMatrix
