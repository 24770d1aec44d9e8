import PolyMatrix.Proofs.Expression.Pieces

/-!
# Reading a sentence

The expression that the reader makes of a sentence follows its tree: the signs in
front of a term belong to the term, wherever the tree has them, those behind a star
to the factor, and terms are added up from the left.  No piece of a sentence
is left out, so reading one makes no notices; the only condition is that the
brackets fit below the limit.
-/

namespace PolyMatrix

open Expression

namespace Grammar

/-- The sign of a run of signs behind a sign. -/
def parity (negative : Bool) (signs : List Bool) : Bool :=
  signs.foldl (fun earlier later => earlier ^^ later) negative

theorem parity_append (negative : Bool) (first second : List Bool) :
    parity negative (first ++ second) = parity (parity negative first) second :=
  List.foldl_append

/-! ## Expressions of trees -/

/-- Where the reader stands behind a link. -/
def Link.place : Link → Place
  | star [] => .star
  | star (sign :: signs) => .factor (parity sign signs)
  | adjacent => .joint

/-- The signs at the front of a term. -/
def Term.signs : Term → List Bool
  | .first signs _ => signs
  | .next left _ _ => left.signs

mutual

def Sentence.expression : Sentence → Expression
  | .first signs term =>
      .sum .zero (parity false (signs ++ term.signs)) term.expression
  | .next left sign signs term =>
      .sum left.expression (parity sign (signs ++ term.signs)) term.expression

/-- The product of a term, without the signs at its front. -/
def Term.expression : Term → Expression
  | .first _ primary => .signed false primary.expression
  | .next left link primary =>
      .product left.expression (.signed link.place.negative primary.expression)

def Primary.expression : Primary → Expression
  | .number value => .number value
  | .symbol name => .symbol name
  | .multiple value name => .multiple value name
  | .group inner => inner.expression

end

/-! ## Sums in front of a term and behind one -/

/-- A sum whose next term has not begun. -/
def before (total : Option Expression) (negative touched : Bool) : OpenSum :=
  { total, negative, touched }

/-- A sum that can end, or go on with another factor. -/
def behind (total : Option Expression) (negative : Bool) (product : Expression) :
    OpenSum :=
  { total, negative, touched := true, product := some product, place := .joint }

/-- The sum that is open when a sentence has been read. -/
def Sentence.state : Sentence → OpenSum
  | .first signs term =>
      behind none (parity false (signs ++ term.signs)) term.expression
  | .next left sign signs term =>
      behind (some left.expression) (parity sign (signs ++ term.signs))
        term.expression

theorem Sentence.stop_state (sentence : Sentence) :
    sentence.state.stop = pure (some sentence.expression) := by
  cases sentence with
  | first signs term => rfl
  | next left sign signs term => rfl

/-- Behind a sentence, a sign starts another term. -/
theorem Sentence.read_sign_state (sentence : Sentence) (sign : Bool) :
    sentence.state.read (.sign sign) =
      pure (.onward (before (some sentence.expression) sign true)) := by
  cases sentence with
  | first signs term => rfl
  | next left sign signs term => rfl

/-! ## Single pieces -/

section Steps

variable {source : String} {total : Expression} {outer : List OpenSum}

theorem advance_onward
    {current next : OpenSum} {piece : Piece}
    (reads : current.read piece = pure (.onward next))
    (outer : List OpenSum) :
    advance piece current outer = pure (.reading next outer) := by
  rw [advance.eq_def]
  simp only [reads]
  rfl

/-- An opening bracket starts a sum, if not too many are open. -/
theorem advance_opening
    (current : OpenSum)
    (room : outer.length < nestingLimit) :
    advance .opening current outer = pure (.reading {} (current :: outer)) := by
  have inward : current.read .opening = pure (.inward current) := rfl
  rw [advance.eq_def]
  simp only [inward, if_pos room]
  rfl

/-- A closing bracket makes the sum in it a factor of the one around it. -/
theorem advance_closing
    {current : OpenSum} {inner : Expression}
    (stops : current.stop = pure (some inner))
    (parent : OpenSum)
    (others : List OpenSum) :
    advance .closing current (parent :: others) =
      pure (.reading (parent.addFactor inner) others) := by
  have outward : current.read .closing = pure (.outward (some inner)) := by
    rw [OpenSum.read, stops]
    rfl
  rw [advance.eq_def]
  simp only [outward]
  rfl

theorem readAll_of_advance
    {current next : OpenSum} {others : List OpenSum} {piece : Piece}
    (advances : advance piece current outer = pure (.reading next others))
    (rest : List Piece) :
    Reader.readAll source ⟨total, current, outer⟩ (piece :: rest) =
      Reader.readAll source ⟨total, next, others⟩ rest := by
  rw [Reader.readAll, Reader.read, advances]
  rfl

/-! ## Runs of pieces -/

/-- Signs in front of a term make one sign. -/
theorem readAll_signs
    (sum : Option Expression)
    (negative touched : Bool)
    (signs : List Bool)
    (rest : List Piece) :
    Reader.readAll source ⟨total, before sum negative touched, outer⟩
        (signPieces signs ++ rest) =
      Reader.readAll source
        ⟨total, before sum (parity negative signs) (touched || !signs.isEmpty), outer⟩
        rest := by
  induction signs generalizing negative touched with
  | nil => simp only [List.isEmpty_nil, Bool.not_true, Bool.or_false]; rfl
  | cons sign later inductionHypothesis =>
      have reads : (before sum negative touched).read (.sign sign) =
          pure (.onward (before sum (negative ^^ sign) true)) := rfl
      refine (readAll_of_advance (advance_onward reads outer) _).trans ?_
      refine (inductionHypothesis (negative ^^ sign) true).trans ?_
      rw [List.isEmpty_cons, Bool.not_false, Bool.or_true, Bool.true_or]
      rfl

/-- Behind a sentence, signs begin another term. -/
theorem Sentence.readAll_signs
    (sentence : Sentence)
    (sign : Bool)
    (signs : List Bool)
    (rest : List Piece) :
    Reader.readAll source ⟨total, sentence.state, outer⟩
        (signPieces (sign :: signs) ++ rest) =
      Reader.readAll source
        ⟨total, before (some sentence.expression) (parity sign signs) true, outer⟩
        rest := by
  refine (readAll_of_advance
    (advance_onward (sentence.read_sign_state sign) outer) _).trans ?_
  refine (Grammar.readAll_signs (some sentence.expression) sign true signs rest).trans ?_
  rw [Bool.true_or]

/-- Signs of a factor make one sign. -/
theorem readAll_factor_signs
    (state : OpenSum)
    (negative : Bool)
    (signs : List Bool)
    (rest : List Piece) :
    Reader.readAll source ⟨total, { state with place := .factor negative }, outer⟩
        (signPieces signs ++ rest) =
      Reader.readAll source
        ⟨total, { state with place := .factor (parity negative signs) }, outer⟩
        rest := by
  induction signs generalizing negative with
  | nil => rfl
  | cons sign later inductionHypothesis =>
      have reads : OpenSum.read { state with place := .factor negative } (.sign sign) =
          pure (.onward { state with place := .factor (negative ^^ sign) }) := rfl
      exact (readAll_of_advance (advance_onward reads outer) _).trans
        (inductionHypothesis (negative ^^ sign))

/-- Behind a factor, a link leads to the place of the next one. -/
theorem Link.readAll_pieces
    (link : Link)
    (sum : Option Expression)
    (negative : Bool)
    (product : Expression)
    (rest : List Piece) :
    Reader.readAll source ⟨total, behind sum negative product, outer⟩
        (link.pieces ++ rest) =
      Reader.readAll source
        ⟨total, { behind sum negative product with place := link.place }, outer⟩
        rest := by
  cases link with
  | adjacent => rfl
  | star signs =>
      have readsStar : (behind sum negative product).read .star =
          pure (.onward { behind sum negative product with place := .star }) := rfl
      cases signs with
      | nil => exact readAll_of_advance (advance_onward readsStar outer) rest
      | cons sign later =>
          have readsSign :
              OpenSum.read { behind sum negative product with place := .star }
                (.sign sign) =
                pure (.onward
                  { behind sum negative product with place := .factor sign }) := rfl
          change Reader.readAll source _
            (.star :: .sign sign :: (signPieces later ++ rest)) = _
          rw [readAll_of_advance (advance_onward readsStar outer),
            readAll_of_advance (advance_onward readsSign outer),
            readAll_factor_signs]
          rfl

end Steps

/-! ## Trees -/

mutual

/-- Reading a sentence where a sum begins leads to the sum of its terms. -/
theorem Sentence.readAll_pieces
    (sentence : Sentence)
    {source : String} {total : Expression} {outer : List OpenSum}
    (room : outer.length + sentence.nesting ≤ nestingLimit)
    (rest : List Piece) :
    Reader.readAll source ⟨total, {}, outer⟩ (sentence.pieces ++ rest) =
      Reader.readAll source ⟨total, sentence.state, outer⟩ rest := by
  cases sentence with
  | first signs term =>
      rw [Sentence.nesting] at room
      rw [Sentence.pieces, List.append_assoc]
      refine (readAll_signs none false false signs _).trans ?_
      rw [Term.readAll_pieces term room, ← parity_append]
      rfl
  | next left sign signs term =>
      rw [Sentence.nesting] at room
      have leftRoom : outer.length + left.nesting ≤ nestingLimit := by omega
      have termRoom : outer.length + term.nesting ≤ nestingLimit := by omega
      rw [Sentence.pieces, List.append_assoc, List.append_assoc,
        Sentence.readAll_pieces left leftRoom, left.readAll_signs,
        Term.readAll_pieces term termRoom, ← parity_append]
      rfl

theorem Term.readAll_pieces
    (term : Term)
    {source : String} {total : Expression} {outer : List OpenSum}
    (room : outer.length + term.nesting ≤ nestingLimit)
    {sum : Option Expression} {negative touched : Bool}
    (rest : List Piece) :
    Reader.readAll source ⟨total, before sum negative touched, outer⟩
        (term.pieces ++ rest) =
      Reader.readAll source
        ⟨total, behind sum (parity negative term.signs) term.expression, outer⟩
        rest := by
  cases term with
  | first signs primary =>
      rw [Term.nesting] at room
      rw [Term.pieces, List.append_assoc, readAll_signs,
        Primary.readAll_pieces primary room]
      rfl
  | next left link primary =>
      rw [Term.nesting] at room
      have leftRoom : outer.length + left.nesting ≤ nestingLimit := by omega
      have primaryRoom : outer.length + primary.nesting ≤ nestingLimit := by omega
      rw [Term.pieces, List.append_assoc, List.append_assoc,
        Term.readAll_pieces left leftRoom, Link.readAll_pieces,
        Primary.readAll_pieces primary primaryRoom]
      rfl

/-- A primary is read as a factor of whatever sum is open. -/
theorem Primary.readAll_pieces
    (primary : Primary)
    {source : String} {total : Expression} {outer : List OpenSum}
    (room : outer.length + primary.nesting ≤ nestingLimit)
    {current : OpenSum}
    (rest : List Piece) :
    Reader.readAll source ⟨total, current, outer⟩ (primary.pieces ++ rest) =
      Reader.readAll source ⟨total, current.addFactor primary.expression, outer⟩
        rest := by
  have operand : ∀ value : Expression,
      current.read (.operand value) = pure (.onward (current.addFactor value)) :=
    fun _ => rfl
  cases primary with
  | number value =>
      exact readAll_of_advance (advance_onward (operand (.number value)) outer) rest
  | symbol name =>
      exact readAll_of_advance (advance_onward (operand (.symbol name)) outer) rest
  | multiple value name =>
      exact readAll_of_advance
        (advance_onward (operand (.multiple value name)) outer) rest
  | group inner =>
      rw [Primary.nesting] at room
      have opens : outer.length < nestingLimit := by omega
      have innerRoom : (current :: outer).length + inner.nesting ≤ nestingLimit := by
        rw [List.length_cons]
        omega
      rw [Primary.pieces, List.cons_append, List.append_assoc,
        readAll_of_advance (advance_opening current opens),
        Sentence.readAll_pieces inner innerRoom]
      exact readAll_of_advance
        (advance_closing inner.stop_state current outer) rest

end

/-- Where no bracket is open, the joined tree of a sentence leads to its state. -/
theorem Sentence.readAll_joined_append
    (source : String)
    (total : Expression)
    {sentence : Sentence}
    (shallow : sentence.nesting ≤ nestingLimit)
    (rest : List Piece) :
    Reader.readAll source { total } (sentence.joined.pieces ++ rest) =
      Reader.readAll source ⟨total, sentence.joined.state, []⟩ rest := by
  have room : ([] : List OpenSum).length + sentence.joined.nesting ≤ nestingLimit := by
    rw [List.length_nil, sentence.nesting_joined, Nat.zero_add]
    exact shallow
  exact sentence.joined.readAll_pieces room rest

/-- By itself it is read as its expression. -/
theorem Sentence.readAll_joined
    (source : String)
    (total : Expression)
    {sentence : Sentence}
    (shallow : sentence.nesting ≤ nestingLimit) :
    Reader.readAll source { total } sentence.joined.pieces =
      pure (.sum total false sentence.joined.expression) := by
  have closes : close sentence.joined.state [] =
      pure (some sentence.joined.expression) := sentence.joined.stop_state
  have reading := Sentence.readAll_joined_append source total shallow []
  rw [List.append_nil] at reading
  refine reading.trans ?_
  rw [Reader.readAll, closes]
  rfl

/-- A sentence whose brackets fit below the limit is read as the expression of its
joined tree, and nothing is left out. -/
theorem Sentence.expression_ofTokens
    (source : String)
    {sentence : Sentence}
    (shallow : sentence.nesting ≤ nestingLimit) :
    Expression.ofTokens source sentence.tokens =
      pure (.sum .zero false sentence.joined.expression) := by
  rw [Expression.ofTokens, sentence.ofTokens_tokens]
  exact Sentence.readAll_joined source .zero shallow

end Grammar
end PolyMatrix
