import PolyMatrix.Proofs.Expression.Orderly

/-!
# Reading in brackets

Pieces with balanced brackets are read in one of two ways.  Either no sum ends before
its closing bracket; then what is read does not depend on what stands around it.  Or one
does; then its bracket is closed early, with a notice, and as its partner is taken by the
next bracket around it, the last closing bracket of all has nothing to close.
-/

namespace PolyMatrix

namespace Expression

namespace OpenSum

/-! ## Sums with a value -/

/-- A sum in which something with a value was read. -/
def Filled (state : OpenSum) : Prop :=
  state.total.isSome = true ∨ state.product.isSome = true

theorem Filled.stop
    {state : OpenSum}
    (filled : state.Filled) : ∃ total, state.stop.value = some total := by
  unfold OpenSum.stop
  unfold Filled at filled
  grind [Noted.value_pure, Noted.value_bind, Option.isSome_iff_exists]

theorem filled_addFactor (state : OpenSum) (value : Expression) :
    (state.addFactor value).Filled := by
  right
  unfold addFactor
  cases state.product with
  | none => rfl
  | some product => rfl

theorem Filled.closeGroup
    {state : OpenSum}
    (filled : state.Filled)
    (inner : Option Expression) : (state.closeGroup inner).value.Filled := by
  cases inner with
  | none => exact filled
  | some value => exact state.filled_addFactor value

theorem Filled.onward
    {state next : OpenSum} {piece : Piece}
    (filled : state.Filled)
    (onward : (state.read piece).value = .onward next) : next.Filled := by
  cases piece with
  | opening => cases onward
  | operand value =>
      cases onward
      exact state.filled_addFactor value
  | closing => cases onward
  | sign negative =>
      change (state.readSign negative).value = _ at onward
      unfold readSign endAtSign at onward
      unfold Filled at filled ⊢
      grind [Noted.value_pure, Noted.value_bind]
  | star =>
      change state.readStar.value = _ at onward
      unfold readStar endAtStar at onward
      unfold Filled at filled ⊢
      grind [Noted.value_pure, Noted.value_bind]

end OpenSum

/-! ## Balanced brackets -/

/-- The lists whose brackets balance, with at most so many of them open at a time. -/
inductive Bracketed {α : Type} (opening closing : α) : Nat → List α → Prop
  | nil {depth : Nat} : Bracketed opening closing depth []
  | plain {depth : Nat} {item : α} {rest : List α}
      (notOpening : item ≠ opening)
      (notClosing : item ≠ closing)
      (later : Bracketed opening closing depth rest) :
      Bracketed opening closing depth (item :: rest)
  | group {depth : Nat} {inner rest : List α}
      (inside : Bracketed opening closing depth inner)
      (later : Bracketed opening closing (depth + 1) rest) :
      Bracketed opening closing (depth + 1) (opening :: (inner ++ closing :: rest))

namespace Reader

/-- Reads pieces without ending the expression behind them. -/
def through (source : String) (reader : Reader) (pieces : List Piece) : Attempt Reader :=
  pieces.foldlM (Reader.read source) reader

/-- Ends the expression. -/
def finish (reader : Reader) : Attempt Expression := do
  let total ← Attempt.ofNoted (close reader.current reader.outer)
  pure (reader.total.extend total)

variable {source : String} {total : Expression} {outer : List OpenSum}

theorem through_cons (reader : Reader) (piece : Piece) (rest : List Piece) :
    reader.through source (piece :: rest) =
      reader.read source piece >>= fun next => next.through source rest :=
  List.foldlM_cons

theorem through_append (reader : Reader) (pieces rest : List Piece) :
    reader.through source (pieces ++ rest) =
      reader.through source pieces >>= fun next => next.through source rest :=
  List.foldlM_append

theorem readAll_eq_through (reader : Reader) (pieces : List Piece) :
    reader.readAll source pieces = reader.through source pieces >>= finish := by
  induction pieces generalizing reader with
  | nil =>
      rw [through, List.foldlM_nil, pure_bind]
      rfl
  | cons piece rest inductionHypothesis =>
      rw [readAll, through_cons, bind_assoc]
      simp only [inductionHypothesis]

/-- Balanced brackets are read without a fault, and no sum that opens with one of them
is left open. -/
theorem exists_through
    {depth : Nat} {pieces : List Piece}
    (bracketed : Bracketed .opening .closing depth pieces)
    (source : String)
    (reader : Reader)
    (room : reader.outer.length + depth ≤ nestingLimit) :
    ∃ next : Reader, (reader.through source pieces).result = .ok next ∧
      next.outer.length ≤ reader.outer.length := by
  induction bracketed generalizing reader with
  | nil => exact ⟨reader, rfl, le_refl _⟩
  | plain notOpening notClosing later laterHypothesis =>
      obtain ⟨next, reads, fewer⟩ := exists_read notOpening source reader
      obtain ⟨last, reached, fewest⟩ := laterHypothesis next (by omega)
      refine ⟨last, ?_, fewest.trans fewer⟩
      rw [through_cons, Attempt.result_bind_of_result reads, reached]
  | group inside later insideHypothesis laterHypothesis =>
      have opens := read_opening source reader (by omega)
      obtain ⟨inner, reached, fewerInside⟩ :=
        insideHypothesis ⟨reader.total, {}, reader.current :: reader.outer⟩
          (by rw [List.length_cons]; omega)
      rw [List.length_cons] at fewerInside
      obtain ⟨next, closes, fewer⟩ := exists_read_closing source inner
      obtain ⟨last, ends, fewest⟩ := laterHypothesis next (by omega)
      refine ⟨last, ?_, by omega⟩
      rw [through_cons, Attempt.result_bind_of_result opens.result, through_append,
        Attempt.result_bind_of_result reached, through_cons,
        Attempt.result_bind_of_result closes, ends]

end Reader

/-- The pieces are read within one sum: none of the sums in their brackets ends before
its closing bracket, and the sum around them does not end at all. -/
inductive ReadsTo : Nat → OpenSum → List Piece → OpenSum → Prop
  | nil {depth : Nat} {state : OpenSum} : ReadsTo depth state [] state
  | onward {depth : Nat} {state next last : OpenSum} {piece : Piece} {rest : List Piece}
      (onward : (state.read piece).value = .onward next)
      (later : ReadsTo depth next rest last) :
      ReadsTo depth state (piece :: rest) last
  | group {depth : Nat} {state insideLast last : OpenSum} {inner rest : List Piece}
      (inside : ReadsTo depth {} inner insideLast)
      (later : ReadsTo (depth + 1) (state.closeGroup insideLast.stop.value).value rest last) :
      ReadsTo (depth + 1) state (.opening :: (inner ++ .closing :: rest)) last

/-- What is read within one sum is read in whatever stands around it. -/
theorem ReadsTo.through
    {depth : Nat} {state last : OpenSum} {pieces : List Piece}
    (reads : ReadsTo depth state pieces last)
    {source : String} {total : Expression} {outer : List OpenSum}
    (room : outer.length + depth ≤ nestingLimit) :
    (Reader.through source ⟨total, state, outer⟩ pieces).Orderly ⟨total, last, outer⟩ := by
  induction reads generalizing outer with
  | nil => exact .pure _
  | onward onward later laterHypothesis =>
      rw [Reader.through_cons]
      exact (Reader.read_onward onward).bind (laterHypothesis room)
  | @group depth state insideLast last inner rest inside later insideHypothesis
      laterHypothesis =>
      have opens : outer.length < nestingLimit := by omega
      have insideRoom : (state :: outer).length + depth ≤ nestingLimit := by
        rw [List.length_cons]
        omega
      rw [Reader.through_cons]
      refine (Reader.read_opening source ⟨total, state, outer⟩ opens).bind ?_
      rw [Reader.through_append]
      refine (insideHypothesis insideRoom).bind ?_
      rw [Reader.through_cons]
      exact (Reader.read_closing _).bind (laterHypothesis room)

/-- Where a number or a symbol is read, the sum has a value. -/
theorem ReadsTo.filled
    {depth : Nat} {state last : OpenSum} {pieces : List Piece}
    (reads : ReadsTo depth state pieces last)
    (operand : state.Filled ∨ ∃ value, .operand value ∈ pieces) : last.Filled := by
  induction reads with
  | nil =>
      rcases operand with filled | ⟨value, member⟩
      · exact filled
      · cases member
  | @onward depth state next last piece rest onward later laterHypothesis =>
      apply laterHypothesis
      rcases operand with filled | ⟨value, member⟩
      · exact .inl (filled.onward onward)
      · rcases List.mem_cons.mp member with rfl | behind
        · cases onward
          exact .inl (state.filled_addFactor value)
        · exact .inr ⟨value, behind⟩
  | @group depth state insideLast last inner rest inside later insideHypothesis
      laterHypothesis =>
      apply laterHypothesis
      rcases operand with filled | ⟨value, member⟩
      · exact .inl (filled.closeGroup _)
      · rcases List.mem_cons.mp member with opening | behind
        · cases opening
        · rcases List.mem_append.mp behind with within | behind
          · obtain ⟨sum, stops⟩ := (insideHypothesis (.inr ⟨value, within⟩)).stop
            rw [stops]
            exact .inl (state.filled_addFactor sum)
          · rcases List.mem_cons.mp behind with closing | behind
            · cases closing
            · exact .inr ⟨value, behind⟩

/-- The pieces end the sum around them before its closing bracket: afterwards there are
fewer open sums, and it is noticed that a bracket is missing. -/
def EndsEarly (depth : Nat) (state : OpenSum) (pieces : List Piece) : Prop :=
  ∀ (source : String) (total : Expression) (parent : OpenSum) (outer : List OpenSum),
    (parent :: outer).length + depth ≤ nestingLimit →
    ∃ next : Reader,
      (Reader.through source ⟨total, state, parent :: outer⟩ pieces).result = .ok next ∧
      next.outer.length ≤ outer.length ∧
      .missingBracket ∈
        (Reader.through source ⟨total, state, parent :: outer⟩ pieces).notices

/-- A sum that is ended behind some of the pieces is ended. -/
theorem EndsEarly.append
    {depth : Nat} {state next : OpenSum} {pieces rest : List Piece}
    (reads : ReadsTo depth state pieces next)
    (early : EndsEarly depth next rest) : EndsEarly depth state (pieces ++ rest) := by
  intro source total parent outer room
  obtain ⟨last, reached, fewer, noticed⟩ := early source total parent outer room
  have front := (reads.through room :
    (Reader.through source ⟨total, state, parent :: outer⟩ pieces).Orderly _).result
  rw [Reader.through_append, Attempt.result_bind_of_result front,
    Attempt.notices_bind_of_result front]
  exact ⟨last, reached, fewer, List.mem_append_right _ noticed⟩

/-- A sum that ends in front of a piece that is no bracket ends early. -/
theorem endsEarly_of_outward
    {depth : Nat} {state : OpenSum} {piece : Piece} {rest : List Piece}
    {sum : Option Expression}
    (outward : (state.read piece).value = .outward sum)
    (notOpening : piece ≠ .opening)
    (notClosing : piece ≠ .closing)
    (later : Bracketed .opening .closing depth rest) :
    EndsEarly depth state (piece :: rest) := by
  intro source total parent outer room
  rw [List.length_cons] at room
  obtain ⟨same, noticed⟩ :=
    Reader.read_of_outward outward notClosing source total parent outer
  obtain ⟨next, reads, fewer⟩ :=
    Reader.exists_read notOpening source ⟨total, (parent.closeGroup sum).value, outer⟩
  change next.outer.length ≤ outer.length at fewer
  obtain ⟨last, reached, fewest⟩ := Reader.exists_through later source next (by omega)
  rw [← same] at reads
  refine ⟨last, ?_, fewest.trans fewer, ?_⟩
  · rw [Reader.through_cons, Attempt.result_bind_of_result reads, reached]
  · rw [Reader.through_cons]
    exact Attempt.mem_notices_bind _ noticed

/-- A sum that is ended in a bracket takes the closing bracket from the one around it. -/
theorem endsEarly_group
    {depth : Nat} {state : OpenSum} {inner rest : List Piece}
    (early : EndsEarly depth {} inner)
    (later : Bracketed .opening .closing (depth + 1) rest) :
    EndsEarly (depth + 1) state (.opening :: (inner ++ .closing :: rest)) := by
  intro source total parent outer room
  rw [List.length_cons] at room
  have opens := Reader.read_opening source ⟨total, state, parent :: outer⟩
    (by change (parent :: outer).length < _; rw [List.length_cons]; omega)
  obtain ⟨inside, reached, fewerInside, noticed⟩ :=
    early source total state (parent :: outer) (by simp only [List.length_cons]; omega)
  rw [List.length_cons] at fewerInside
  obtain ⟨next, closes, fewer⟩ := Reader.exists_read_closing source inside
  obtain ⟨last, ends, fewest⟩ := Reader.exists_through later source next (by omega)
  rw [Reader.through_cons, Attempt.result_bind_of_result opens.result,
    Attempt.notices_bind_of_result opens.result, Reader.through_append]
  refine ⟨last, ?_, by omega, ?_⟩
  · rw [Attempt.result_bind_of_result reached, Reader.through_cons,
      Attempt.result_bind_of_result closes, ends]
  · exact List.mem_append_right _ (Attempt.mem_notices_bind _ noticed)

/-- Balanced brackets are read within one sum, or end the sum around them. -/
theorem Bracketed.readsTo_or_endsEarly
    {depth : Nat} {pieces : List Piece}
    (bracketed : Bracketed .opening .closing depth pieces)
    (state : OpenSum) :
    (∃ last, ReadsTo depth state pieces last) ∨ EndsEarly depth state pieces := by
  induction bracketed generalizing state with
  | nil => exact .inl ⟨state, .nil⟩
  | @plain depth piece rest notOpening notClosing later laterHypothesis =>
      cases step : (state.read piece).value with
      | onward next =>
          rcases laterHypothesis next with ⟨last, reads⟩ | early
          · exact .inl ⟨last, .onward step reads⟩
          · exact .inr (.append (.onward step .nil) early)
      | inward outside => exact absurd (OpenSum.opening_of_inward step) notOpening
      | outward sum => exact .inr (endsEarly_of_outward step notOpening notClosing later)
  | @group depth inner rest inside later insideHypothesis laterHypothesis =>
      rcases insideHypothesis {} with ⟨insideLast, insideReads⟩ | insideEarly
      -- The closing bracket meets its partner, and the sum around goes on behind it.
      · rcases laterHypothesis (state.closeGroup insideLast.stop.value).value with
          ⟨last, laterReads⟩ | early
        · exact .inl ⟨last, .group insideReads laterReads⟩
        · refine .inr ?_
          have front := EndsEarly.append (.group insideReads .nil) early
          rwa [List.cons_append, List.append_assoc] at front
      -- The partner is gone, so the closing bracket ends the sum around it as well.
      · exact .inr (endsEarly_group insideEarly later)

end Expression
end PolyMatrix
