import PolyMatrix.Proofs.Expression.Depth

/-!
# Reading in single moves

Before a piece is read it can end several sums.  Here reading is taken apart into moves
that read or skip one piece, or close one bracket without a piece for it.  Moves of the
second kind are no more than brackets were opened, so reading ends.
-/

namespace PolyMatrix

namespace Expression

/-- A reader and the pieces that it has not read. -/
structure Position where
  reader : Reader
  rest : List Piece
  deriving DecidableEq, Repr

/-- What a move leads to. -/
inductive Move
  | onto (next : Position)
  | done (expression : Expression)
  deriving DecidableEq, Repr

namespace Position

/-- The position in front of some tokens. -/
def start (tokens : List Token) : Position :=
  ⟨{}, Piece.ofTokens tokens⟩

/-- How many brackets are open. -/
def height (position : Position) : Nat :=
  position.reader.outer.length

/-- Reads on to the end. -/
def readAll (source : String) (position : Position) : Attempt Expression :=
  position.reader.readAll source position.rest

/-- Reads or skips one piece, closes one bracket without a piece for it, or ends the
expression. -/
def move (source : String) : Position → Attempt Move
  | ⟨⟨total, current, outer⟩, []⟩ => do
      let inner ← Attempt.ofNoted current.stop
      match outer with
      | [] => pure (.done (total.extend inner))
      | parent :: others => do
          Attempt.note .missingBracket
          let joined ← Attempt.ofNoted (parent.closeGroup inner)
          pure (.onto ⟨⟨total, joined, others⟩, []⟩)
  | ⟨⟨total, current, outer⟩, piece :: rest⟩ => do
      match ← Attempt.ofNoted (current.read piece) with
      | .onward next => pure (.onto ⟨⟨total, next, outer⟩, rest⟩)
      | .inward outside =>
          if outer.length < nestingLimit then
            pure (.onto ⟨⟨total, {}, outside :: outer⟩, rest⟩)
          else Attempt.fail (.nestedTooDeep nestingLimit)
      | .outward inner =>
          match outer with
          | [] => do
              Attempt.note (.strayToken piece.text source)
              pure (.onto ⟨{ total := total.extend inner }, rest⟩)
          | parent :: others =>
              if piece = .closing then do
                let joined ← Attempt.ofNoted (parent.closeGroup inner)
                pure (.onto ⟨⟨total, joined, others⟩, rest⟩)
              else do
                Attempt.note .missingBracket
                let joined ← Attempt.ofNoted (parent.closeGroup inner)
                pure (.onto ⟨⟨total, joined, others⟩, piece :: rest⟩)

end Position

/-- Reads on behind a move. -/
def Move.readAll (source : String) : Move → Attempt Expression
  | onto next => next.readAll source
  | done expression => pure expression

namespace Position

/-- Reading is a move, and reading on behind it. -/
theorem readAll_eq_move (source : String) (position : Position) :
    position.readAll source =
      position.move source >>= fun move => move.readAll source := by
  obtain ⟨⟨total, current, outer⟩, rest⟩ := position
  cases rest with
  | nil =>
      cases outer with
      | nil =>
          simp only [readAll, Reader.readAll, move, close, bind_assoc, pure_bind]
          rfl
      | cons parent others =>
          simp only [readAll, Reader.readAll, move, close, Attempt.ofNoted_bind,
            bind_assoc, pure_bind]
          rfl
  | cons piece rest =>
      change Reader.readAll source _ _ = _
      rw [Reader.readAll, Reader.read, advance.eq_def, move]
      simp only [bind_assoc]
      refine bind_congr fun step => ?_
      cases step with
      | onward next => rfl
      | inward outside =>
          by_cases room : outer.length < nestingLimit
          · simp only [if_pos room]
            rfl
          · simp only [if_neg room]
            rfl
      | outward inner =>
          cases outer with
          | nil => rfl
          | cons parent others =>
              by_cases closing : piece = .closing
              · simp only [if_pos closing, bind_assoc]
                rfl
              · simp only [if_neg closing, bind_assoc, pure_bind, Move.readAll, readAll,
                  Reader.readAll, Reader.read]

/-! ## What a move does -/

theorem le_depthBehind
    {piece : Piece}
    (notClosing : piece ≠ .closing)
    (depth : Nat) : depth ≤ depthBehind .opening .closing depth piece := by
  unfold depthBehind
  rw [if_neg notClosing]
  split
  · exact Nat.le_succ depth
  · exact le_refl depth

/-- What can come out of a move. -/
inductive Outcome (position : Position) : Except Fault Move → Prop
  /-- One piece is taken, and no more brackets are open than it explains and the limit
  allows. -/
  | piece {next : Position} {piece : Piece}
      (takes : position.rest = piece :: next.rest)
      (explained : next.height ≤ depthBehind .opening .closing position.height piece)
      (allowed : next.height ≤ max position.height nestingLimit) :
      Outcome position (.ok (.onto next))
  /-- No piece is taken, and one bracket is closed. -/
  | bracket {next : Position}
      (keeps : position.rest = next.rest)
      (closes : position.height = next.height + 1) :
      Outcome position (.ok (.onto next))
  /-- The expression ends. -/
  | done (expression : Expression) : Outcome position (.ok (.done expression))
  /-- A bracket opens where too many are open. -/
  | fault {rest : List Piece}
      (full : nestingLimit ≤ position.height)
      (opens : position.rest = .opening :: rest) :
      Outcome position (.error (.nestedTooDeep nestingLimit))

theorem outcome_move (source : String) (position : Position) :
    Outcome position (position.move source).result := by
  obtain ⟨⟨total, current, outer⟩, rest⟩ := position
  cases rest with
  | nil =>
      cases outer with
      | nil => exact .done _
      | cons parent others => exact .bracket rfl rfl
  | cons piece rest =>
      rw [move, Attempt.result_bind_of_result (Attempt.result_ofNoted _)]
      cases step : (current.read piece).value with
      | onward next =>
          have notClosing : piece ≠ .closing := by
            rintro rfl
            cases step
          exact .piece rfl (le_depthBehind notClosing _) (le_max_left _ _)
      | inward outside =>
          cases OpenSum.opening_of_inward step
          by_cases room : outer.length < nestingLimit
          · simp only [if_pos room]
            exact .piece rfl (le_refl (outer.length + 1)) (le_max_of_le_right room)
          · simp only [if_neg room]
            exact .fault (Nat.le_of_not_lt room) rfl
      | outward inner =>
          cases outer with
          | nil => exact .piece rfl (Nat.zero_le _) (Nat.zero_le _)
          | cons parent others =>
              by_cases closing : piece = .closing
              · subst closing
                simp only [if_true]
                exact .piece rfl (le_refl others.length)
                  (le_max_of_le_left (Nat.le_succ others.length))
              · simp only [if_neg closing]
                exact .bracket rfl rfl

theorem outcome_of_move
    {source : String} {position : Position} {result : Except Fault Move}
    (moves : (position.move source).result = result) : Outcome position result :=
  moves ▸ position.outcome_move source

/-- Twice the pieces in front, and the open brackets: a move makes this smaller. -/
def size (position : Position) : Nat :=
  2 * position.rest.length + position.height

theorem size_lt_of_move
    {source : String} {first next : Position}
    (moves : (first.move source).result = .ok (.onto next)) : next.size < first.size := by
  unfold size
  cases outcome_of_move moves with
  | @piece _ piece takes explained allowed =>
      have deeper := depthBehind_le Piece.opening .closing first.height piece
      rw [takes, List.length_cons]
      omega
  | bracket keeps closes =>
      rw [keeps]
      omega

/-! ## Runs -/

/-- So many moves lead from one position to another. -/
inductive Run (source : String) : Nat → Position → Position → Prop
  | refl (position : Position) : Run source 0 position position
  | step {count : Nat} {first next last : Position}
      (moves : (first.move source).result = .ok (.onto next))
      (later : Run source count next last) :
      Run source (count + 1) first last

variable {source : String} {count : Nat} {first last : Position}

/-- There are no more moves than the size of the position that they start from. -/
theorem Run.count_add_size_le (run : Run source count first last) :
    count + last.size ≤ first.size := by
  induction run with
  | refl => exact Nat.le_of_eq (Nat.zero_add _)
  | step moves later inductionHypothesis =>
      have smaller := size_lt_of_move moves
      omega

/-- Reading some tokens takes at most two moves a token. -/
theorem Run.count_le
    {tokens : List Token}
    (run : Run source count (start tokens) last) : count ≤ 2 * tokens.length := by
  have bounded := run.count_add_size_le
  have shorter := length_ofTokens_le tokens
  change count + last.size ≤ 2 * (Piece.ofTokens tokens).length + 0 at bounded
  omega

/-- The limit on open brackets is kept by every move. -/
theorem Run.height_le
    (run : Run source count first last)
    (within : first.height ≤ nestingLimit) : last.height ≤ nestingLimit := by
  induction run with
  | refl => exact within
  | @step count first next last moves later inductionHypothesis =>
      apply inductionHypothesis
      cases outcome_of_move moves with
      | piece takes explained allowed => exact allowed.trans (max_le within (le_refl _))
      | bracket keeps closes => omega

/-- No more brackets are open than the pieces that were taken explain. -/
theorem Run.exists_front
    (run : Run source count first last)
    {before : List Piece}
    (explained : first.height ≤ bracketDepth .opening .closing before) :
    ∃ front, first.rest = front ++ last.rest ∧
      last.height ≤ bracketDepth .opening .closing (before ++ front) := by
  induction run generalizing before with
  | refl =>
      refine ⟨[], rfl, ?_⟩
      rwa [List.append_nil]
  | @step count first next last moves later inductionHypothesis =>
      cases outcome_of_move moves with
      | @piece _ piece takes higher allowed =>
          have behind : next.height ≤ bracketDepth .opening .closing (before ++ [piece]) := by
            rw [bracketDepth_append_singleton]
            exact higher.trans (depthBehind_mono explained piece)
          obtain ⟨front, rest, deep⟩ := inductionHypothesis behind
          refine ⟨piece :: front, ?_, ?_⟩
          · rw [takes, rest, List.cons_append]
          · rwa [List.append_assoc, List.singleton_append] at deep
      | bracket keeps closes =>
          obtain ⟨front, rest, deep⟩ := @inductionHypothesis before (by omega)
          exact ⟨front, keeps.trans rest, deep⟩

/-- From every position some moves lead to the end of reading. -/
theorem exists_run (source : String) (position : Position) :
    ∃ count last, Run source count position last ∧
      (last.move source).result = (position.readAll source).result.map .done := by
  -- Every move leads to a smaller position, so the induction is on the size.
  induction size : position.size using Nat.strong_induction_on generalizing position with
  | h size inductionHypothesis =>
      have reads : (position.readAll source).result =
          (position.move source).result >>= fun move => (move.readAll source).result := by
        rw [readAll_eq_move, Attempt.result_bind]
      cases moves : (position.move source).result with
      | error fault =>
          rw [moves] at reads
          refine ⟨0, position, .refl position, ?_⟩
          rw [moves, reads]
          rfl
      | ok move =>
          rw [moves] at reads
          cases move with
          | done expression =>
              refine ⟨0, position, .refl position, ?_⟩
              rw [moves, reads]
              rfl
          | onto next =>
              have smaller := size_lt_of_move moves
              obtain ⟨count, last, run, ends⟩ :=
                inductionHypothesis next.size (by omega) next rfl
              refine ⟨count + 1, last, .step moves run, ?_⟩
              rw [ends, reads]
              rfl

end Position

end Expression
end PolyMatrix
