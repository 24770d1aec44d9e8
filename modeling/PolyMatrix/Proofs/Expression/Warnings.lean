import PolyMatrix.Proofs.Expression.Orderly

/-!
# Notices of reading

Whatever a text is read with, all that reading tells is that something was left out or
added, and all of these notices are warnings.
-/

namespace PolyMatrix

theorem Notice.IsOmission.level
    {notice : Notice}
    (omission : notice.IsOmission) : notice.level = .warning := by
  cases notice with
  | danglingStar | danglingSign | emptyBrackets => rfl
  | skippedCharacter | missingBracket | strayToken | divisionStopped | ruleRejected
  | cellsChanged | multiplied | determinant | traceEntry | drawing => exact omission.elim

namespace Attempt

variable {α β : Type}

/-- Every notice of the attempt is a warning. -/
def OnlyWarns (attempt : Attempt α) : Prop :=
  ∀ notice ∈ attempt.notices, notice.level = .warning

theorem onlyWarns_pure (value : α) : OnlyWarns (pure value) := by
  rintro notice ⟨⟩

theorem onlyWarns_fail (fault : Fault) : OnlyWarns (fail fault : Attempt α) := by
  rintro notice ⟨⟩

theorem onlyWarns_note
    {notice : Notice}
    (warning : notice.level = .warning) : OnlyWarns (note notice) := by
  intro other member
  rw [notices_note, List.mem_singleton] at member
  rwa [member]

theorem onlyWarns_ofNoted
    {noted : Noted α}
    (warnings : ∀ notice ∈ noted.notices, notice.level = .warning) :
    OnlyWarns (ofNoted noted) := by
  rwa [OnlyWarns, notices_ofNoted]

theorem OnlyWarns.bind
    {first : Attempt α} {next : α → Attempt β}
    (warns : OnlyWarns first)
    (later : ∀ value, OnlyWarns (next value)) : OnlyWarns (first >>= next) := by
  cases reached : first.result with
  | ok value =>
      rw [OnlyWarns, notices_bind_of_result reached]
      intro notice member
      exact (List.mem_append.mp member).elim (warns notice) (later value notice)
  | error fault =>
      rw [OnlyWarns, notices_bind_of_fault reached]
      exact warns

end Attempt

open Attempt

namespace Token

theorem onlyWarns_finish (source : String) (word : Word) :
    OnlyWarns (word.finish source) := by
  cases word with
  | absent => exact onlyWarns_pure _
  | name reversed => exact onlyWarns_pure _
  | literal reversed =>
      rw [Word.finish]
      split
      · exact onlyWarns_pure _
      · exact onlyWarns_fail _

theorem onlyWarns_start (source : String) (character : Char) :
    OnlyWarns (ofNoted (Word.start source character)) := by
  apply onlyWarns_ofNoted
  unfold Word.start
  grind [Noted.notices_pure, Noted.notices_bind, Noted.notices_note, Notice.level]

theorem onlyWarns_scanFrom (source : String) (word : Word) (text : List Char) :
    OnlyWarns (scanFrom source word text) := by
  induction text generalizing word with
  | nil =>
      rw [scanFrom_nil]
      exact onlyWarns_finish source word
  | cons character rest inductionHypothesis =>
      rw [scanFrom]
      split
      · exact inductionHypothesis _
      · refine (onlyWarns_finish source word).bind fun finished => ?_
        split
        · exact (inductionHypothesis _).bind fun _ => onlyWarns_pure _
        · exact (onlyWarns_start source character).bind fun _ =>
            (inductionHypothesis _).bind fun _ => onlyWarns_pure _

end Token

namespace Expression

theorem onlyWarns_closeGroup (state : OpenSum) (inner : Option Expression) :
    OnlyWarns (ofNoted (state.closeGroup inner)) :=
  onlyWarns_ofNoted fun notice member => (state.omission_closeGroup inner notice member).level

theorem onlyWarns_advance (piece : Piece) (current : OpenSum) (outer : List OpenSum) :
    OnlyWarns (advance piece current outer) := by
  have reads (state : OpenSum) : OnlyWarns (ofNoted (state.read piece)) :=
    onlyWarns_ofNoted fun notice member => (state.omission_read piece notice member).level
  induction outer generalizing current with
  | nil =>
      rw [advance.eq_def]
      refine (reads current).bind fun step => ?_
      cases step with
      | onward next => exact onlyWarns_pure _
      | inward outside => exact onlyWarns_pure _
      | outward total => exact onlyWarns_pure _
  | cons parent others inductionHypothesis =>
      rw [advance.eq_def]
      refine (reads current).bind fun step => ?_
      cases step with
      | onward next => exact onlyWarns_pure _
      | inward outside =>
          dsimp only
          split
          · exact onlyWarns_pure _
          · exact onlyWarns_fail _
      | outward total =>
          dsimp only
          split
          · exact (onlyWarns_closeGroup parent total).bind fun _ => onlyWarns_pure _
          · exact (onlyWarns_note rfl).bind fun _ =>
              (onlyWarns_closeGroup parent total).bind fun joined => inductionHypothesis joined

theorem warning_close (current : OpenSum) (outer : List OpenSum) :
    ∀ notice ∈ (close current outer).notices, notice.level = .warning := by
  induction outer generalizing current with
  | nil => exact fun notice member => (current.omission_stop notice member).level
  | cons parent others inductionHypothesis =>
      intro notice member
      rw [close, Noted.notices_bind, Noted.notices_bind, Noted.notices_bind,
        List.mem_append, List.mem_append, List.mem_append] at member
      rcases member with stops | missing | closes | later
      · exact (current.omission_stop notice stops).level
      · cases List.mem_singleton.mp missing
        rfl
      · exact (parent.omission_closeGroup _ notice closes).level
      · exact inductionHypothesis _ notice later

theorem onlyWarns_readAll (source : String) (reader : Reader) (pieces : List Piece) :
    OnlyWarns (reader.readAll source pieces) := by
  induction pieces generalizing reader with
  | nil =>
      have closes := onlyWarns_ofNoted (warning_close reader.current reader.outer)
      exact closes.bind fun _ => onlyWarns_pure _
  | cons piece rest inductionHypothesis =>
      have reads : OnlyWarns (reader.read source piece) := by
        refine (onlyWarns_advance piece reader.current reader.outer).bind fun step => ?_
        cases step with
        | reading current outer => exact onlyWarns_pure _
        | ended total => exact (onlyWarns_note rfl).bind fun _ => onlyWarns_pure _
      exact reads.bind fun next => inductionHypothesis next

/-- All notices of reading an expression are warnings. -/
theorem onlyWarns_parse (source : String) : OnlyWarns (parse source) :=
  (Token.onlyWarns_scanFrom source .absent source.toList).bind fun _ =>
    onlyWarns_readAll source {} _

end Expression
end PolyMatrix
