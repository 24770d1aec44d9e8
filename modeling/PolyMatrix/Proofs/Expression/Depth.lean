import PolyMatrix.Proofs.Expression.Orderly

/-!
# Depth of brackets

The depth behind a list is the number of its brackets that are open there, where a closing
bracket that has no partner closes nothing.  The characters of a text, its tokens and its
pieces have the same brackets in the same order, so they have the same depths.
-/

namespace PolyMatrix

section Brackets

variable {α β : Type} [DecidableEq α] [DecidableEq β]

/-- How many brackets are open behind an item, if so many are open in front of it. -/
def depthBehind (opening closing : α) (depth : Nat) (item : α) : Nat :=
  if item = opening then depth + 1 else if item = closing then depth - 1 else depth

theorem depthBehind_le (opening closing : α) (depth : Nat) (item : α) :
    depthBehind opening closing depth item ≤ depth + 1 := by
  unfold depthBehind
  split
  · exact le_refl _
  · split
    · exact Nat.le_succ_of_le (Nat.sub_le depth 1)
    · exact Nat.le_succ depth

theorem depthBehind_mono
    {opening closing : α} {depth larger : Nat}
    (le : depth ≤ larger)
    (item : α) :
    depthBehind opening closing depth item ≤ depthBehind opening closing larger item := by
  unfold depthBehind
  split
  · exact Nat.succ_le_succ le
  · split
    · exact Nat.sub_le_sub_right le 1
    · exact le

/-- How many brackets are open at the end of a list. -/
def bracketDepth (opening closing : α) (items : List α) : Nat :=
  items.foldl (depthBehind opening closing) 0

/-- An opening bracket as `true`, and a closing one as `false`. -/
def bracket? (opening closing item : α) : Option Bool :=
  if item = opening then some true else if item = closing then some false else none

/-- The brackets of a list. -/
def brackets (opening closing : α) (items : List α) : List Bool :=
  items.filterMap (bracket? opening closing)

theorem brackets_append (opening closing : α) (items others : List α) :
    brackets opening closing (items ++ others) =
      brackets opening closing items ++ brackets opening closing others :=
  List.filterMap_append

theorem brackets_cons (opening closing item : α) (rest : List α) :
    brackets opening closing (item :: rest) =
      (bracket? opening closing item).toList ++ brackets opening closing rest := by
  rw [brackets, List.filterMap_cons]
  cases bracket? opening closing item <;> rfl

theorem bracketDepth_append_singleton (opening closing : α) (items : List α) (item : α) :
    bracketDepth opening closing (items ++ [item]) =
      depthBehind opening closing (bracketDepth opening closing items) item := by
  rw [bracketDepth, List.foldl_append]
  rfl

/-- The depth is that of the brackets alone. -/
theorem bracketDepth_brackets (opening closing : α) (items : List α) :
    bracketDepth true false (brackets opening closing items) =
      bracketDepth opening closing items := by
  rw [bracketDepth, brackets, List.foldl_filterMap, bracketDepth]
  congr 1
  funext depth item
  by_cases opens : item = opening
  · simp only [bracket?, depthBehind, if_pos opens, if_true]
  · by_cases closes : item = closing
    · simp only [bracket?, depthBehind, if_neg opens, if_pos closes]
      rfl
    · simp only [bracket?, depthBehind, if_neg opens, if_neg closes]

/-- Lists with the same brackets reach the same depths. -/
theorem exists_front_of_brackets_eq
    {opening closing : α} {items : List α}
    {otherOpening otherClosing : β} {others : List β}
    (same : brackets opening closing items = brackets otherOpening otherClosing others)
    {front : List α}
    (begins : front <+: items) :
    ∃ otherFront, otherFront <+: others ∧
      bracketDepth otherOpening otherClosing otherFront =
        bracketDepth opening closing front := by
  obtain ⟨back, rfl⟩ := begins
  rw [brackets_append] at same
  obtain ⟨otherFront, otherBack, rfl, fronts, -⟩ := List.filterMap_eq_append_iff.mp same.symm
  have fronts : brackets otherOpening otherClosing otherFront =
      brackets opening closing front := fronts
  refine ⟨otherFront, List.prefix_append _ _, ?_⟩
  rw [← bracketDepth_brackets, fronts, bracketDepth_brackets]

end Brackets

namespace Expression

/-! ## Pieces and tokens -/

/-- No bracket is joined with another token. -/
theorem brackets_ofTokens (tokens : List Token) :
    brackets Piece.opening .closing (Piece.ofTokens tokens) =
      brackets Token.opening .closing tokens := by
  induction tokens using Piece.ofTokens.induct with
  | case1 => rfl
  | case2 value name rest inductionHypothesis => exact inductionHypothesis
  | case3 value rest notSymbol inductionHypothesis =>
      rw [Grammar.ofTokens_number value notSymbol]
      exact inductionHypothesis
  | case4 | case5 | case6 | case7 =>
      rename_i inductionHypothesis
      exact inductionHypothesis
  | case8 rest inductionHypothesis => exact congrArg (List.cons true) inductionHypothesis
  | case9 rest inductionHypothesis => exact congrArg (List.cons false) inductionHypothesis

theorem length_ofTokens_le (tokens : List Token) :
    (Piece.ofTokens tokens).length ≤ tokens.length := by
  induction tokens using Piece.ofTokens.induct with
  | case1 => exact le_refl _
  | case2 value name rest inductionHypothesis =>
      exact Nat.succ_le_succ (Nat.le_succ_of_le inductionHypothesis)
  | case3 value rest notSymbol inductionHypothesis =>
      rw [Grammar.ofTokens_number value notSymbol]
      exact Nat.succ_le_succ inductionHypothesis
  | case4 | case5 | case6 | case7 | case8 | case9 =>
      rename_i inductionHypothesis
      exact Nat.succ_le_succ inductionHypothesis

end Expression

namespace Token

/-! ## Tokens and characters -/

theorem brackets_finish
    {source : String} {word : Word} {tokens : List Token}
    (finishes : (word.finish source).result = .ok tokens) :
    brackets opening closing tokens = [] := by
  cases word with
  | absent =>
      cases finishes
      rfl
  | name reversed =>
      cases finishes
      rfl
  | literal reversed =>
      rw [Word.finish] at finishes
      split at finishes
      · cases finishes
        rfl
      · cases finishes

theorem extend?_opening (word : Word) : word.extend? '(' = none :=
  extend?_eq_none rfl rfl word

/-- No bracket is part of a word. -/
theorem bracket?_of_extend
    {word longer : Word} {character : Char}
    (continues : word.extend? character = some longer) :
    bracket? '(' ')' character = none := by
  have notOpening : character ≠ '(' := by
    rintro rfl
    cases continues.symm.trans (extend?_opening word)
  have notClosing : character ≠ ')' := by
    rintro rfl
    cases continues.symm.trans (extend?_closing word)
  rw [bracket?, if_neg notOpening, if_neg notClosing]

/-- A character is the same bracket as its token, if it has one. -/
theorem bracket?_ofCharacter? (character : Char) :
    (ofCharacter? character).bind (bracket? opening closing) =
      bracket? '(' ')' character := by
  unfold ofCharacter? bracket?
  grind

/-- Scanning keeps the brackets of a text, and their order. -/
theorem brackets_scanFrom
    {source : String} {word : Word} {text : List Char} {tokens : List Token}
    (scans : (scanFrom source word text).result = .ok tokens) :
    brackets opening closing tokens = brackets '(' ')' text := by
  induction text generalizing word tokens with
  | nil =>
      rw [scanFrom_nil] at scans
      exact brackets_finish scans
  | cons character rest inductionHypothesis =>
      cases continues : word.extend? character with
      | some longer =>
          rw [scanFrom_cons_of_extend rest continues] at scans
          rw [inductionHypothesis scans, brackets_cons, bracket?_of_extend continues]
          rfl
      | none =>
          have bracket := bracket?_ofCharacter? character
          rw [scanFrom, continues] at scans
          obtain ⟨finished, finishes, scans⟩ := Attempt.exists_of_result_bind scans
          cases found : ofCharacter? character with
          | some token =>
              rw [found] at scans bracket
              obtain ⟨later, scansLater, joined⟩ := Attempt.exists_of_result_bind scans
              cases joined
              rw [brackets_append, brackets_finish finishes, List.nil_append, brackets_cons,
                brackets_cons, inductionHypothesis scansLater, ← bracket]
              rfl
          | none =>
              rw [found] at scans bracket
              obtain ⟨next, starts, scansNext⟩ := Attempt.exists_of_result_bind scans
              obtain ⟨later, scansLater, joined⟩ := Attempt.exists_of_result_bind scansNext
              cases joined
              rw [brackets_append, brackets_finish finishes, List.nil_append, brackets_cons,
                inductionHypothesis scansLater, ← bracket]
              rfl

end Token

end PolyMatrix
