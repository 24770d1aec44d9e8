import PolyMatrix.Proofs.Expression.Layout
import PolyMatrix.Proofs.Expression.Reading

/-!
# Closing brackets by their partners

The one notice that tells of a bracket closed without its partner is made where a sum
ends in front of another piece, or of nothing.  Scanning a text does not make it, and
neither does reading a piece within the sum that is open.
-/

namespace PolyMatrix

namespace Attempt

variable {α β : Type}

/-- The attempt ends in a value, and no bracket was closed early on the way. -/
structure Orderly (attempt : Attempt α) (value : α) : Prop where
  result : attempt.result = .ok value
  silent : .missingBracket ∉ attempt.notices

theorem Orderly.pure (value : α) : Orderly (pure value) value where
  result := rfl
  silent := List.not_mem_nil

theorem Orderly.bind
    {first : Attempt α} {value : α} {next : α → Attempt β} {final : β}
    (reached : Orderly first value)
    (later : Orderly (next value) final) : Orderly (first >>= next) final where
  result := by rw [result_bind_of_result reached.result, later.result]
  silent := by
    rw [notices_bind_of_result reached.result, List.mem_append]
    exact fun noticed => noticed.elim reached.silent later.silent

theorem orderly_ofNoted
    {noted : Noted α}
    (silent : .missingBracket ∉ noted.notices) : Orderly (ofNoted noted) noted.value where
  result := rfl
  silent := by rwa [notices_ofNoted]

end Attempt

namespace Token

/-! ## Tokens in brackets

The source that is scanned is only quoted in faults and notices, so a text has the same
tokens inside of a longer one, provided that no word runs on. -/

theorem orderly_finish
    {source : String} {word : Word} {tokens : List Token}
    (finishes : (word.finish source).result = .ok tokens)
    (other : String) : (word.finish other).Orderly tokens := by
  cases word with
  | absent =>
      cases finishes
      exact .pure _
  | name reversed =>
      cases finishes
      exact .pure _
  | literal reversed =>
      simp only [Word.finish] at finishes ⊢
      cases read : Decimal.ofLiteral? reversed.reverse with
      | none =>
          rw [read] at finishes
          cases finishes
      | some value =>
          rw [read] at finishes
          cases finishes
          exact .pure _

/-- A character begins the same word in every source. -/
theorem orderly_start (source other : String) (character : Char) :
    (Attempt.ofNoted (Word.start other character)).Orderly
      (Word.start source character).value := by
  have same : (Word.start other character).value = (Word.start source character).value := by
    unfold Word.start
    grind [Noted.value_pure, Noted.value_bind]
  rw [← same]
  apply Attempt.orderly_ofNoted
  unfold Word.start
  grind [Noted.notices_pure, Noted.notices_bind, Noted.notices_note]

/-- A text has the same tokens in every source. -/
theorem orderly_scanFrom
    {source : String} {word : Word} {text : List Char} {tokens : List Token}
    (scans : (scanFrom source word text).result = .ok tokens)
    (other : String) : (scanFrom other word text).Orderly tokens := by
  induction text generalizing word tokens with
  | nil =>
      rw [scanFrom_nil] at scans ⊢
      exact orderly_finish scans other
  | cons character text inductionHypothesis =>
      cases continues : word.extend? character with
      | some longer =>
          rw [scanFrom_cons_of_extend _ continues] at scans ⊢
          exact inductionHypothesis scans
      | none =>
          rw [scanFrom, continues] at scans ⊢
          obtain ⟨finished, finishes, scans⟩ := Attempt.exists_of_result_bind scans
          refine (orderly_finish finishes other).bind ?_
          cases found : ofCharacter? character with
          | some token =>
              rw [found] at scans
              obtain ⟨later, scansLater, joined⟩ := Attempt.exists_of_result_bind scans
              cases joined
              exact (inductionHypothesis scansLater).bind (.pure _)
          | none =>
              rw [found] at scans
              obtain ⟨next, starts, scansNext⟩ := Attempt.exists_of_result_bind scans
              obtain ⟨later, scansLater, joined⟩ := Attempt.exists_of_result_bind scansNext
              cases starts
              cases joined
              exact (orderly_start source other character).bind
                ((inductionHypothesis scansLater).bind (.pure _))

theorem extend?_closing (word : Word) : word.extend? ')' = none :=
  extend?_eq_none rfl rfl word

/-- A text in front of a closing bracket is scanned as by itself. -/
theorem orderly_scanFrom_closing
    {source : String} {word : Word} {text : List Char} {tokens : List Token}
    (scans : (scanFrom source word text).result = .ok tokens)
    {other : String} {rest : List Char} {later : List Token}
    (behind : (scanFrom other .absent rest).Orderly later) :
    (scanFrom other word (text ++ ')' :: rest)).Orderly (tokens ++ .closing :: later) := by
  have closed : (scanFrom other .absent (')' :: rest)).Orderly (.closing :: later) := by
    rw [scanFrom_token rfl]
    exact behind.bind (.pure _)
  rw [scanFrom_append_stop extend?_closing]
  exact (orderly_scanFrom scans other).bind (closed.bind (.pure _))

/-- A text in brackets is scanned as by itself. -/
theorem orderly_scanFrom_group
    {text : String} {tokens : List Token}
    (scans : (scan text).result = .ok tokens)
    {source : String} {rest : List Char} {later : List Token}
    (behind : (scanFrom source .absent rest).Orderly later) :
    (scanFrom source .absent ('(' :: (text.toList ++ ')' :: rest))).Orderly
      (.opening :: (tokens ++ .closing :: later)) := by
  rw [scanFrom_token rfl]
  exact (orderly_scanFrom_closing scans behind).bind (.pure _)

end Token

/-- The notices about what is left out of a sum. -/
def Notice.IsOmission : Notice → Prop
  | .danglingStar | .danglingSign | .emptyBrackets => True
  | _ => False

namespace Expression

namespace OpenSum

/-! ## Steps of a sum -/

/-- Ending a sum tells at most of what is left out of it. -/
theorem omission_stop (state : OpenSum) :
    ∀ notice ∈ state.stop.notices, notice.IsOmission := by
  unfold stop
  grind [Noted.notices_bind, Noted.notices_note, Noted.notices_pure, Notice.IsOmission]

theorem omission_closeGroup (state : OpenSum) (inner : Option Expression) :
    ∀ notice ∈ (state.closeGroup inner).notices, notice.IsOmission := by
  unfold closeGroup
  grind [Noted.notices_bind, Noted.notices_note, Noted.notices_pure, Notice.IsOmission]

theorem omission_endAtSign (state : OpenSum) (negative : Bool) :
    ∀ notice ∈ (state.endAtSign negative).notices, notice.IsOmission := by
  unfold endAtSign
  grind [Noted.notices_bind, Noted.notices_note, Noted.notices_pure, Notice.IsOmission]

theorem omission_endAtStar (state : OpenSum) :
    ∀ notice ∈ state.endAtStar.notices, notice.IsOmission := by
  unfold endAtStar
  grind [Noted.notices_bind, Noted.notices_note, Noted.notices_pure, Notice.IsOmission]

theorem omission_read (state : OpenSum) (piece : Piece) :
    ∀ notice ∈ (state.read piece).notices, notice.IsOmission := by
  have stop := state.omission_stop
  have endAtSign := state.omission_endAtSign
  have endAtStar := state.omission_endAtStar
  unfold read readSign readStar
  grind [Noted.notices_bind, Noted.notices_note, Noted.notices_pure, Notice.IsOmission]

theorem silent_stop (state : OpenSum) : .missingBracket ∉ state.stop.notices :=
  state.omission_stop _

theorem silent_closeGroup (state : OpenSum) (inner : Option Expression) :
    .missingBracket ∉ (state.closeGroup inner).notices :=
  state.omission_closeGroup inner _

theorem silent_read (state : OpenSum) (piece : Piece) :
    .missingBracket ∉ (state.read piece).notices :=
  state.omission_read piece _

/-- Only an opening bracket leads into another sum. -/
theorem opening_of_inward
    {current outside : OpenSum} {piece : Piece}
    (inward : (current.read piece).value = .inward outside) : piece = .opening := by
  cases piece with
  | opening => rfl
  | operand value => cases inward
  | closing => cases inward
  | sign negative =>
      change (current.readSign negative).value = _ at inward
      unfold readSign endAtSign at inward
      grind [Noted.value_pure, Noted.value_bind]
  | star =>
      change current.readStar.value = _ at inward
      unfold readStar endAtStar at inward
      grind [Noted.value_pure, Noted.value_bind]

end OpenSum

namespace Reader

variable {source : String} {total : Expression} {current : OpenSum} {outer : List OpenSum}

/-! ## Single pieces -/

theorem read_onward
    {next : OpenSum} {piece : Piece}
    (onward : (current.read piece).value = .onward next) :
    (Reader.read source ⟨total, current, outer⟩ piece).Orderly ⟨total, next, outer⟩ := by
  have advances : (advance piece current outer).Orderly (.reading next outer) := by
    have reads := Attempt.orderly_ofNoted (current.silent_read piece)
    rw [advance.eq_def]
    refine reads.bind ?_
    rw [onward]
    exact .pure _
  exact advances.bind (.pure _)

theorem read_opening
    (source : String)
    (reader : Reader)
    (room : reader.outer.length < nestingLimit) :
    (reader.read source .opening).Orderly
      ⟨reader.total, {}, reader.current :: reader.outer⟩ := by
  rw [Reader.read, Grammar.advance_opening reader.current room]
  exact .pure _

theorem read_closing (parent : OpenSum) :
    (Reader.read source ⟨total, current, parent :: outer⟩ .closing).Orderly
      ⟨total, (parent.closeGroup current.stop.value).value, outer⟩ := by
  have advances : (advance .closing current (parent :: outer)).Orderly
      (.reading (parent.closeGroup current.stop.value).value outer) := by
    have reads := Attempt.orderly_ofNoted (current.silent_read .closing)
    have closes := Attempt.orderly_ofNoted
      (parent.silent_closeGroup current.stop.value)
    rw [advance.eq_def]
    refine reads.bind ?_
    exact closes.bind (.pure _)
  exact advances.bind (.pure _)

/-- Where the outermost sum ends in front of a piece, reading starts afresh behind
it. -/
theorem result_read_of_outward
    {sum : Option Expression} {piece : Piece}
    (outward : (current.read piece).value = .outward sum) :
    (Reader.read source ⟨total, current, []⟩ piece).result =
      .ok { total := total.extend sum } := by
  have advances : (advance piece current []).result = .ok (.ended sum) := by
    rw [advance.eq_def, Attempt.result_bind, Attempt.result_ofNoted]
    simp only [outward]
    rfl
  rw [Reader.read, Attempt.result_bind, advances]
  rfl

/-- Where an inner sum ends in front of a piece that does not close it, its bracket
is closed all the same. -/
theorem read_of_outward
    {sum : Option Expression} {piece : Piece}
    (outward : (current.read piece).value = .outward sum)
    (other : piece ≠ .closing)
    (source : String)
    (total : Expression)
    (parent : OpenSum)
    (outer : List OpenSum) :
    (Reader.read source ⟨total, current, parent :: outer⟩ piece).result =
        (Reader.read source ⟨total, (parent.closeGroup sum).value, outer⟩ piece).result ∧
      .missingBracket ∈
        (Reader.read source ⟨total, current, parent :: outer⟩ piece).notices := by
  have advances :
      (advance piece current (parent :: outer)).result =
          (advance piece (parent.closeGroup sum).value outer).result ∧
        .missingBracket ∈ (advance piece current (parent :: outer)).notices := by
    rw [advance.eq_def piece current (parent :: outer)]
    constructor
    · simp only [Attempt.result_bind, Attempt.result_ofNoted, outward, if_neg other]
      rfl
    · rw [Attempt.notices_bind_of_result (Attempt.result_ofNoted _)]
      simp only [outward, if_neg other]
      rw [Attempt.notices_bind_of_result (Attempt.result_note _)]
      exact List.mem_append_right _ (List.mem_append_left _ List.mem_cons_self)
  constructor
  · rw [Reader.read, Reader.read, Attempt.result_bind, Attempt.result_bind, advances.1]
  · exact Attempt.mem_notices_bind _ advances.2

/-- Reading a piece that opens no bracket does not fail, and opens no sum. -/
theorem exists_read
    {piece : Piece}
    (notOpening : piece ≠ .opening)
    (source : String)
    (reader : Reader) :
    ∃ next : Reader, (reader.read source piece).result = .ok next ∧
      next.outer.length ≤ reader.outer.length := by
  obtain ⟨total, current, outer⟩ := reader
  induction outer generalizing current with
  | nil =>
      cases step : (current.read piece).value with
      | onward next => exact ⟨_, (read_onward step).result, le_refl _⟩
      | inward outside => exact absurd (OpenSum.opening_of_inward step) notOpening
      | outward sum => exact ⟨_, result_read_of_outward step, le_refl _⟩
  | cons parent others inductionHypothesis =>
      cases step : (current.read piece).value with
      | onward next => exact ⟨_, (read_onward step).result, le_refl _⟩
      | inward outside => exact absurd (OpenSum.opening_of_inward step) notOpening
      | outward sum =>
          by_cases closing : piece = .closing
          · rw [closing]
            exact ⟨_, (read_closing parent).result, Nat.le_succ _⟩
          · obtain ⟨next, reached, fewer⟩ := inductionHypothesis (parent.closeGroup sum).value
            rw [← (read_of_outward step closing source total parent others).1] at reached
            exact ⟨next, reached, Nat.le_succ_of_le fewer⟩

/-- A closing bracket takes away one sum. -/
theorem exists_read_closing (source : String) (reader : Reader) :
    ∃ next : Reader, (reader.read source .closing).result = .ok next ∧
      next.outer.length ≤ reader.outer.length - 1 := by
  obtain ⟨total, current, outer⟩ := reader
  cases outer with
  | nil => exact exists_read (by decide) source ⟨total, current, []⟩
  | cons parent others => exact ⟨_, (read_closing parent).result, le_refl _⟩

end Reader

end Expression
end PolyMatrix
