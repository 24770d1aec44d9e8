import Mathlib.Data.List.Forall2
import PolyMatrix.Proofs.Expression.Grouping
import PolyMatrix.Proofs.Expression.Limit

/-!
# What a skipped token does

A closing bracket with nothing to close is skipped, and what stands behind it is read by
itself and added.  Of two stars in a row the second one is skipped too, but only where the
term in front of them has no factor is it read as if it were not there.  Where there is one,
the second star ends the innermost sum as a closing bracket does.
-/

namespace PolyMatrix

namespace Expression

/-! ## Summands -/

/-- An expression with others added, from the left. -/
def addAll (total : Expression) (addends : List Expression) : Expression :=
  addends.foldl (fun sum addend => .sum sum false addend) total

@[simp] theorem addAll_nil (total : Expression) : total.addAll [] = total :=
  rfl

@[simp] theorem addAll_cons (total addend : Expression) (rest : List Expression) :
    total.addAll (addend :: rest) = (Expression.sum total false addend).addAll rest :=
  rfl

theorem extend_eq_addAll (total : Expression) (sum : Option Expression) :
    total.extend sum = total.addAll sum.toList := by
  cases sum with
  | none => rfl
  | some addend => rfl

theorem addAll_append (total : Expression) (addends others : List Expression) :
    total.addAll (addends ++ others) = (total.addAll addends).addAll others :=
  List.foldl_append

/-! ## Brackets within the limit -/

section Limit

variable {α : Type} [DecidableEq α] {opening closing : α} {items others : List α}

/-- Nowhere in a list are more brackets open than the limit allows. -/
def WithinLimit (opening closing : α) (items : List α) : Prop :=
  ∀ front, front <+: items → bracketDepth opening closing front ≤ nestingLimit

/-- Behind a list that leaves no bracket open, depths are counted anew. -/
theorem bracketDepth_append_of_eq_zero
    (nothingOpen : bracketDepth opening closing items = 0)
    (others : List α) :
    bracketDepth opening closing (items ++ others) = bracketDepth opening closing others := by
  unfold bracketDepth at nothingOpen ⊢
  rw [List.foldl_append, nothingOpen]

theorem WithinLimit.front
    (within : WithinLimit opening closing (items ++ others)) :
    WithinLimit opening closing items :=
  fun _ begins => within _ (begins.trans (List.prefix_append items others))

theorem WithinLimit.behind
    (within : WithinLimit opening closing (items ++ others))
    (nothingOpen : bracketDepth opening closing items = 0) :
    WithinLimit opening closing others := by
  intro part begins
  rw [← bracketDepth_append_of_eq_zero nothingOpen part]
  exact within _ ((List.prefix_append_right_inj items).mpr begins)

theorem bracketDepth_ofTokens (tokens : List Token) :
    bracketDepth .opening .closing (Piece.ofTokens tokens) =
      bracketDepth .opening .closing tokens := by
  rw [← bracketDepth_brackets, brackets_ofTokens, bracketDepth_brackets]

/-- Tokens within the limit have pieces within it. -/
theorem WithinLimit.ofTokens
    {tokens : List Token}
    (within : WithinLimit .opening .closing tokens) :
    WithinLimit .opening .closing (Piece.ofTokens tokens) := by
  intro front begins
  obtain ⟨tokenFront, tokensBegin, same⟩ :=
    exists_front_of_brackets_eq (brackets_ofTokens tokens) begins
  exact same.symm.trans_le (within tokenFront tokensBegin)

end Limit

namespace Reader

variable {source : String} {current : OpenSum} {outer : List OpenSum}

/-! ## Reading piece by piece -/

theorem result_readAll_cons
    {reader next : Reader} {piece : Piece}
    (reads : (reader.read source piece).result = .ok next)
    (rest : List Piece) :
    (reader.readAll source (piece :: rest)).result = (next.readAll source rest).result := by
  rw [readAll, Attempt.result_bind_of_result reads]

section Advance

variable {piece : Piece} (total : Expression) (rest : List Piece)

theorem result_readAll_of_reading
    {next : OpenSum} {others : List OpenSum}
    (advances : (advance piece current outer).result = .ok (.reading next others)) :
    (Reader.readAll source ⟨total, current, outer⟩ (piece :: rest)).result =
      (Reader.readAll source ⟨total, next, others⟩ rest).result := by
  apply result_readAll_cons
  rw [Reader.read, Attempt.result_bind_of_result advances]
  rfl

theorem result_readAll_of_ended
    {sum : Option Expression}
    (advances : (advance piece current outer).result = .ok (.ended sum)) :
    (Reader.readAll source ⟨total, current, outer⟩ (piece :: rest)).result =
      (Reader.readAll source { total := total.extend sum } rest).result := by
  apply result_readAll_cons
  rw [Reader.read, Attempt.result_bind_of_result advances]
  rfl

theorem result_readAll_of_fault
    {fault : Fault}
    (advances : (advance piece current outer).result = .error fault) :
    (Reader.readAll source ⟨total, current, outer⟩ (piece :: rest)).result =
      .error fault := by
  rw [Reader.readAll, Reader.read, Attempt.result_bind, Attempt.result_bind, advances]
  rfl

end Advance

theorem result_readAll_nil (total : Expression) :
    (Reader.readAll source ⟨total, current, outer⟩ []).result =
      .ok (total.extend (close current outer).value) := by
  rw [Reader.readAll, Attempt.result_bind_of_result (Attempt.result_ofNoted _)]
  rfl

/-- What was read in front of a skipped token is only added to. -/
theorem exists_addends
    (source : String)
    (pieces : List Piece)
    (current : OpenSum)
    (outer : List OpenSum) :
    ∃ outcome : Except Fault (List Expression), ∀ total : Expression,
      (Reader.readAll source ⟨total, current, outer⟩ pieces).result =
        outcome.map total.addAll := by
  induction pieces generalizing current outer with
  | nil =>
      refine ⟨.ok (close current outer).value.toList, fun total => ?_⟩
      rw [result_readAll_nil, extend_eq_addAll]
      rfl
  | cons piece rest inductionHypothesis =>
      cases advances : (advance piece current outer).result with
      | error fault => exact ⟨.error fault, fun total => result_readAll_of_fault total rest advances⟩
      | ok advance =>
          cases advance with
          | reading next others =>
              obtain ⟨outcome, reads⟩ := inductionHypothesis next others
              exact ⟨outcome, fun total =>
                (result_readAll_of_reading total rest advances).trans (reads total)⟩
          | ended sum =>
              obtain ⟨outcome, reads⟩ := inductionHypothesis {} []
              refine ⟨outcome.map (sum.toList ++ ·), fun total => ?_⟩
              rw [result_readAll_of_ended total rest advances, reads]
              cases outcome with
              | error fault => rfl
              | ok addends =>
                  change Except.ok _ = Except.ok _
                  rw [addAll_append, ← extend_eq_addAll]

/-! ## Reading within the limit -/

/-- Without more open brackets than the limit allows, pieces are read without a fault. -/
theorem exists_through_of_depth
    (source : String)
    {pieces : List Piece} {depth : Nat}
    (within : ∀ front, front <+: pieces →
      front.foldl (depthBehind .opening .closing) depth ≤ nestingLimit)
    {reader : Reader}
    (explained : reader.outer.length ≤ depth) :
    ∃ next : Reader, (reader.through source pieces).result = .ok next ∧
      next.outer.length ≤ pieces.foldl (depthBehind .opening .closing) depth := by
  induction pieces generalizing reader depth with
  | nil => exact ⟨reader, rfl, explained⟩
  | cons piece rest inductionHypothesis =>
      have behind : depthBehind .opening .closing depth piece ≤ nestingLimit :=
        within [piece] (List.prefix_append [piece] rest)
      obtain ⟨next, reads, fewer⟩ : ∃ next : Reader,
          (reader.read source piece).result = .ok next ∧
            next.outer.length ≤ depthBehind .opening .closing depth piece := by
        by_cases opens : piece = .opening
        · subst opens
          exact ⟨_, (read_opening source reader (explained.trans_lt behind)).result,
            Nat.succ_le_succ explained⟩
        · by_cases closes : piece = .closing
          · subst closes
            obtain ⟨next, reads, fewer⟩ := exists_read_closing source reader
            exact ⟨next, reads, fewer.trans (Nat.sub_le_sub_right explained 1)⟩
          · obtain ⟨next, reads, fewer⟩ := exists_read opens source reader
            refine ⟨next, reads, ?_⟩
            rw [depthBehind, if_neg opens, if_neg closes]
            exact fewer.trans explained
      obtain ⟨last, reached, fewest⟩ := inductionHypothesis (fun front begins =>
        within (piece :: front) (List.cons_prefix_cons.mpr ⟨rfl, begins⟩)) fewer
      refine ⟨last, ?_, fewest⟩
      rw [through_cons, Attempt.result_bind_of_result reads, reached]

end Reader

/-! ## Sums further out -/

/-- Closing a bracket makes the same of two sums, whatever was read in it. -/
def OpenSum.Alike (left right : OpenSum) : Prop :=
  left.closeGroup = right.closeGroup

namespace Reader

/-- Sums outside of the innermost one matter only through what closing a bracket makes of
them. -/
theorem readAll_congr_outer
    {outer others : List OpenSum}
    (alike : List.Forall₂ OpenSum.Alike outer others)
    (source : String)
    (total : Expression)
    (current : OpenSum)
    (pieces : List Piece) :
    Reader.readAll source ⟨total, current, outer⟩ pieces =
      Reader.readAll source ⟨total, current, others⟩ pieces := by
  have moves : ∀ (outer : List OpenSum) (current : OpenSum) (pieces : List Piece),
      Reader.readAll source ⟨total, current, outer⟩ pieces =
        Position.move source ⟨⟨total, current, outer⟩, pieces⟩ >>=
          fun move => move.readAll source :=
    fun outer current pieces =>
      Position.readAll_eq_move source ⟨⟨total, current, outer⟩, pieces⟩
  -- A piece may close several brackets, so there is an induction on them within the other one.
  induction pieces generalizing current outer others with
  | nil =>
      induction alike generalizing current with
      | nil => rfl
      | @cons parent parent' outer others parents alike inductionHypothesis =>
          have same : parent.closeGroup = parent'.closeGroup := parents
          rw [moves, moves]
          simp only [Position.move, bind_assoc, pure_bind, same]
          exact bind_congr fun _ => bind_congr fun _ => bind_congr fun joined =>
            inductionHypothesis joined
  | cons piece rest pieceHypothesis =>
      induction alike generalizing current with
      | nil => rfl
      | @cons parent parent' outer others parents alike inductionHypothesis =>
          have same : parent.closeGroup = parent'.closeGroup := parents
          have alikeAll : List.Forall₂ OpenSum.Alike (parent :: outer) (parent' :: others) :=
            .cons parents alike
          rw [moves, moves]
          simp only [Position.move, bind_assoc]
          refine bind_congr fun step => ?_
          cases step with
          | onward next => exact pieceHypothesis alikeAll next
          | inward outside =>
              rw [alikeAll.length_eq]
              by_cases room : (parent' :: others).length < nestingLimit
              · simp only [if_pos room]
                exact pieceHypothesis (.cons rfl alikeAll) {}
              · simp only [if_neg room]
          | outward inner =>
              by_cases closing : piece = .closing
              · simp only [if_pos closing, bind_assoc, pure_bind, same]
                exact bind_congr fun joined => pieceHypothesis alike joined
              · simp only [if_neg closing, bind_assoc, pure_bind, same]
                exact bind_congr fun _ => bind_congr fun joined => inductionHypothesis joined

end Reader

/-! ## A star behind a star -/

namespace OpenSum

/-- A sum ends with the term that is being read, if that has factors. -/
theorem value_stop (state : OpenSum) :
    state.stop.value = (state.product.map state.totalWith).or state.total := by
  obtain ⟨total, negative, touched, product, place⟩ := state
  cases place <;> cases product <;> cases touched <;> rfl

/-- The sum has just read a star: behind a factor, or at the start of a term, where the star
is left out. -/
def BehindStar (state : OpenSum) : Prop :=
  state.place = .star ∨
    state.place = .term ∧ state.product = none ∧ state.touched = false

theorem behindStar_of_onward
    {state next : OpenSum}
    (onward : (state.read .star).value = .onward next) : next.BehindStar := by
  change state.readStar.value = _ at onward
  unfold readStar endAtStar at onward
  unfold BehindStar
  grind [Noted.value_pure, Noted.value_bind]

/-- The sum with the term begun anew. -/
def anew (state : OpenSum) : OpenSum :=
  { state with touched := false, place := .term }

/-- Behind a star without a factor on its left, another star begins the term anew. -/
theorem BehindStar.read_star
    {state : OpenSum}
    (behindStar : state.BehindStar)
    (noFactor : state.product = none) : (state.read .star).value = .onward state.anew := by
  obtain ⟨total, negative, touched, product, place⟩ := state
  subst noFactor
  rcases behindStar with place | ⟨place, -, untouched⟩
  · subst place
    rfl
  · subst place untouched
    rfl

theorem BehindStar.anew_of_term
    {state : OpenSum}
    (behindStar : state.BehindStar)
    (place : state.place = .term) : state.anew = state := by
  obtain ⟨total, negative, touched, product, place⟩ := state
  subst place
  rcases behindStar with impossible | ⟨-, -, untouched⟩
  · cases impossible
  · subst untouched
    rfl

/-- Behind a star with a factor on its left, another star ends the sum as a closing bracket
does. -/
theorem outward_of_product
    {state : OpenSum} {product : Expression}
    (place : state.place = .star)
    (factors : state.product = some product) :
    (state.read .star).value = .outward (some (state.totalWith product)) ∧
      state.stop.value = some (state.totalWith product) := by
  constructor
  · obtain ⟨total, negative, touched, product, place⟩ := state
    subst place factors
    rfl
  · rw [value_stop, factors]
    rfl

section Anew

variable {state : OpenSum} (place : state.place = .star) (noFactor : state.product = none)
include place noFactor

theorem addFactor_anew (value : Expression) :
    state.anew.addFactor value = state.addFactor value := by
  obtain ⟨total, negative, touched, product, place⟩ := state
  subst place noFactor
  rfl

theorem alike_anew : state.anew.Alike state := by
  funext inner
  cases inner with
  | none => rfl
  | some value => exact congrArg pure (addFactor_anew place noFactor value)

omit place in
theorem stop_anew : state.anew.stop.value = state.stop.value := by
  rw [value_stop, value_stop, anew, noFactor]
  rfl

end Anew

end OpenSum

namespace Reader

variable {source : String} {total : Expression} {current : OpenSum} {outer : List OpenSum}

/-- However many sums a star ends, the one that goes on has just read it. -/
theorem behindStar_of_read
    {next : Reader}
    (reads : (Reader.read source ⟨total, current, outer⟩ .star).result = .ok next) :
    next.current.BehindStar := by
  induction outer generalizing current with
  | nil =>
      cases step : (current.read .star).value with
      | onward state =>
          cases (read_onward step).result.symm.trans reads
          exact OpenSum.behindStar_of_onward step
      | inward outside => cases OpenSum.opening_of_inward step
      | outward sum =>
          cases (result_read_of_outward step).symm.trans reads
          exact .inr ⟨rfl, rfl, rfl⟩
  | cons parent others inductionHypothesis =>
      cases step : (current.read .star).value with
      | onward state =>
          cases (read_onward step).result.symm.trans reads
          exact OpenSum.behindStar_of_onward step
      | inward outside => cases OpenSum.opening_of_inward step
      | outward sum =>
          rw [(read_of_outward step (by decide) source total parent others).1] at reads
          exact inductionHypothesis reads

/-- A second star behind a factor is read as a closing bracket and a star. -/
theorem result_readAll_star_of_product
    {product : Expression}
    (place : current.place = .star)
    (factors : current.product = some product)
    (rest : List Piece) :
    (Reader.readAll source ⟨total, current, outer⟩ (.star :: rest)).result =
      (Reader.readAll source ⟨total, current, outer⟩ (.closing :: .star :: rest)).result := by
  obtain ⟨outward, stops⟩ := OpenSum.outward_of_product place factors
  cases outer with
  | nil =>
      have closes : (current.read .closing).value =
          .outward (some (current.totalWith product)) := congrArg OpenSum.Step.outward stops
      have afresh : (({} : OpenSum).read .star).value = .onward {} := rfl
      rw [result_readAll_cons (result_read_of_outward outward),
        result_readAll_cons (result_read_of_outward closes),
        result_readAll_cons (read_onward afresh).result]
  | cons parent others =>
      have same := (read_of_outward outward (by decide) source total parent others).1
      have closes : (Reader.read source ⟨total, current, parent :: others⟩ .closing).result =
          .ok ⟨total, (parent.closeGroup (some (current.totalWith product))).value, others⟩ :=
        stops ▸ (read_closing parent).result
      rw [result_readAll_cons closes, Reader.readAll, Attempt.result_bind, same,
        ← Attempt.result_bind, ← Reader.readAll]

/-- Behind a star without a factor on its left only a sign depends on the star. -/
theorem result_readAll_anew
    (place : current.place = .star)
    (noFactor : current.product = none)
    {pieces : List Piece}
    (noSign : ∀ negative, pieces.head? ≠ some (.sign negative)) :
    (Reader.readAll source ⟨total, current.anew, outer⟩ pieces).result =
      (Reader.readAll source ⟨total, current, outer⟩ pieces).result := by
  have stops := OpenSum.stop_anew noFactor
  cases pieces with
  | nil =>
      have closes : (close current.anew outer).value = (close current outer).value := by
        cases outer with
        | nil => exact stops
        | cons parent others =>
            change (close (parent.closeGroup current.anew.stop.value).value others).value = _
            rw [stops]
            rfl
      rw [result_readAll_nil, result_readAll_nil, closes]
  | cons piece rest =>
      cases piece with
      | operand value =>
          have factor : (current.anew.read (.operand value)).value =
              .onward (current.addFactor value) :=
            congrArg OpenSum.Step.onward (OpenSum.addFactor_anew place noFactor value)
          have factor' : (current.read (.operand value)).value =
              .onward (current.addFactor value) := rfl
          rw [result_readAll_cons (read_onward factor).result,
            result_readAll_cons (read_onward factor').result]
      | sign negative => exact absurd rfl (noSign negative)
      | star =>
          have first : current.BehindStar := .inl place
          have again : current.anew.BehindStar := .inr ⟨rfl, noFactor, rfl⟩
          rw [result_readAll_cons (read_onward (again.read_star noFactor)).result,
            result_readAll_cons (read_onward (first.read_star noFactor)).result]
          rfl
      | opening =>
          by_cases room : outer.length < nestingLimit
          · rw [result_readAll_cons (read_opening source ⟨total, current.anew, outer⟩ room).result,
              result_readAll_cons (read_opening source ⟨total, current, outer⟩ room).result]
            have alike : List.Forall₂ OpenSum.Alike (current.anew :: outer) (current :: outer) :=
              .cons (OpenSum.alike_anew place noFactor)
                (List.forall₂_same.mpr fun _ _ => rfl)
            exact congrArg Attempt.result (readAll_congr_outer alike source total {} rest)
          · rw [result_readAll_opening (Nat.le_of_not_lt room),
              result_readAll_opening (Nat.le_of_not_lt room)]
      | closing =>
          cases outer with
          | nil =>
              have closes : (current.anew.read .closing).value =
                  .outward current.stop.value := congrArg OpenSum.Step.outward stops
              have closes' : (current.read .closing).value = .outward current.stop.value := rfl
              rw [result_readAll_cons (result_read_of_outward closes),
                result_readAll_cons (result_read_of_outward closes')]
          | cons parent others =>
              rw [result_readAll_cons (read_closing parent).result, stops,
                result_readAll_cons (read_closing parent).result]

/-- Without a factor in front of the first star, the second one begins the term anew. -/
theorem result_readAll_star_anew
    (behindStar : current.BehindStar)
    (noFactor : current.product = none)
    (rest : List Piece) :
    (Reader.readAll source ⟨total, current, outer⟩ (.star :: rest)).result =
      (Reader.readAll source ⟨total, current.anew, outer⟩ rest).result :=
  result_readAll_cons (read_onward (behindStar.read_star noFactor)).result rest

/-- Without a factor in front of the first star, the second one makes no difference, unless a
sign follows. -/
theorem result_readAll_star_of_none
    (behindStar : current.BehindStar)
    (noFactor : current.product = none)
    {rest : List Piece}
    (noSign : current.place = .term ∨ ∀ negative, rest.head? ≠ some (.sign negative)) :
    (Reader.readAll source ⟨total, current, outer⟩ (.star :: rest)).result =
      (Reader.readAll source ⟨total, current, outer⟩ rest).result := by
  rw [result_readAll_star_anew behindStar noFactor]
  rcases noSign with place | noSign
  · rw [behindStar.anew_of_term place]
  · rcases behindStar with place | ⟨place, -, untouched⟩
    · exact result_readAll_anew place noFactor noSign
    · rw [OpenSum.BehindStar.anew_of_term (.inr ⟨place, noFactor, untouched⟩) place]

/-! ## Lists of tokens -/

theorem readAll_append (reader : Reader) (pieces rest : List Piece) :
    reader.readAll source (pieces ++ rest) =
      reader.through source pieces >>= fun next => next.readAll source rest := by
  simp only [readAll_eq_through, through_append, bind_assoc]

/-- Within the limit an expression is read. -/
theorem exists_readAll_of_within
    (source : String)
    {pieces : List Piece}
    (within : WithinLimit .opening .closing pieces) :
    ∃ expression, (({} : Reader).readAll source pieces).result = .ok expression := by
  obtain ⟨next, reached, -⟩ := exists_through_of_depth source within
    (le_refl ({} : Reader).outer.length)
  rw [readAll_eq_through, Attempt.result_bind_of_result reached]
  exact ⟨_, rfl⟩

/-- Where no bracket is open, only the outermost sum is. -/
theorem exists_through_outermost
    (source : String)
    {pieces : List Piece}
    (nothingOpen : bracketDepth .opening .closing pieces = 0)
    (within : WithinLimit .opening .closing pieces) :
    ∃ total current,
      (({} : Reader).through source pieces).result = .ok ⟨total, current, []⟩ := by
  obtain ⟨⟨total, current, outer⟩, reached, fewer⟩ :=
    exists_through_of_depth source within (le_refl ({} : Reader).outer.length)
  obtain rfl : outer = [] :=
    List.eq_nil_of_length_eq_zero (Nat.le_zero.mp (fewer.trans_eq nothingOpen))
  exact ⟨total, current, reached⟩

/-- A closing bracket with nothing to close ends an expression, and what stands behind it is
added. -/
theorem exists_readAll_stray
    (source : String)
    {front rest : List Piece}
    (nothingOpen : bracketDepth .opening .closing front = 0)
    (withinFront : WithinLimit .opening .closing front)
    (withinRest : WithinLimit .opening .closing rest) :
    ∃ expression addends,
      (({} : Reader).readAll source front).result = .ok expression ∧
      (({} : Reader).readAll source rest).result = .ok (Expression.zero.addAll addends) ∧
      (({} : Reader).readAll source (front ++ .closing :: rest)).result =
        .ok (expression.addAll addends) := by
  obtain ⟨total, current, reached⟩ := exists_through_outermost source nothingOpen withinFront
  obtain ⟨later, readsLater⟩ := exists_readAll_of_within source withinRest
  obtain ⟨outcome, adds⟩ := exists_addends source rest {} []
  have skips : (Reader.read source ⟨total, current, []⟩ .closing).result =
      .ok { total := total.extend current.stop.value } := result_read_of_outward rfl
  cases outcome with
  | error fault => cases readsLater.symm.trans (adds .zero)
  | ok addends =>
      refine ⟨total.extend current.stop.value, addends, ?_, adds .zero, ?_⟩
      · rw [readAll_eq_through, Attempt.result_bind_of_result reached]
        exact (orderly_finish total current).result
      · rw [readAll_append, Attempt.result_bind_of_result reached, result_readAll_cons skips]
        exact adds _

end Reader

end Expression
end PolyMatrix
