import PolyMatrix.Proofs.Expression.Hanging
import PolyMatrix.Proofs.Expression.Orderly

/-!
# Reading without notices

Where reading tells of nothing, every piece was read within the sum that was open, every
bracket was closed by its partner around something, and no sum was left open.  What has
been read in each open sum then is a sentence, or a sentence and the beginning of the next
term or factor; only signs behind a star can have been left without a factor.
-/

namespace PolyMatrix

/-! ## Silent computations -/

namespace Noted

variable {α β : Type}

/-- A sequence that notices nothing has two silent parts. -/
theorem bind_eq_pure
    {first : Noted α} {next : α → Noted β} {final : β}
    (silent : first >>= next = pure final) :
    ∃ value, first = pure value ∧ next value = pure final := by
  have final := congrArg Noted.value silent
  have notices := congrArg Noted.notices silent
  rw [notices_bind, notices_pure, List.append_eq_nil_iff] at notices
  exact ⟨first.value, Noted.ext rfl notices.1, Noted.ext final notices.2⟩

theorem pure_injective
    {left right : α}
    (same : (pure left : Noted α) = pure right) : left = right :=
  congrArg Noted.value same

/-- What begins with a notice is not silent. -/
theorem note_bind_ne_pure (notice : Notice) (next : Unit → Noted β) (final : β) :
    note notice >>= next ≠ pure final := by
  intro silent
  obtain ⟨_, noted, -⟩ := bind_eq_pure silent
  cases congrArg Noted.notices noted

end Noted

namespace Attempt

variable {α β : Type}

/-- An attempt that ends in a value and notices nothing. -/
theorem eq_pure_iff {attempt : Attempt α} {value : α} :
    attempt = pure value ↔ attempt.result = .ok value ∧ attempt.notices = [] := by
  constructor
  · rintro rfl
    exact ⟨rfl, rfl⟩
  · rintro ⟨result, notices⟩
    exact Noted.ext result notices

theorem pure_injective
    {left right : α}
    (same : (pure left : Attempt α) = pure right) : left = right :=
  Except.ok.inj (congrArg result same)

theorem bind_eq_pure
    {first : Attempt α} {next : α → Attempt β} {final : β}
    (silent : first >>= next = pure final) :
    ∃ value, first = pure value ∧ next value = pure final := by
  rw [eq_pure_iff] at silent
  obtain ⟨value, reached, later⟩ := exists_of_result_bind silent.1
  have notices := silent.2
  rw [notices_bind_of_result reached, List.append_eq_nil_iff] at notices
  exact ⟨value, eq_pure_iff.mpr ⟨reached, notices.1⟩, eq_pure_iff.mpr ⟨later, notices.2⟩⟩

theorem ofNoted_eq_pure
    {noted : Noted α} {value : α}
    (silent : ofNoted noted = pure value) : noted = pure value := by
  rw [eq_pure_iff, result_ofNoted, notices_ofNoted] at silent
  exact Noted.ext (Except.ok.inj silent.1) silent.2

theorem note_bind_ne_pure (notice : Notice) (next : Unit → Attempt β) (final : β) :
    note notice >>= next ≠ pure final := by
  intro silent
  obtain ⟨_, noted, -⟩ := bind_eq_pure silent
  cases congrArg notices noted

end Attempt

namespace Expression

/-! ## Silent steps -/

theorem OpenSum.closeGroup_eq_pure
    {state next : OpenSum} {inner : Option Expression}
    (silent : state.closeGroup inner = pure next) :
    ∃ value, inner = some value ∧ next = state.addFactor value := by
  cases inner with
  | none => exact absurd silent (Noted.note_bind_ne_pure _ _ _)
  | some value => exact ⟨value, rfl, (Noted.pure_injective silent).symm⟩

/-- What a piece that is read without notices makes of the open sums. -/
theorem advance_eq_reading
    {piece : Piece} {current next : OpenSum} {outer others : List OpenSum}
    (silent : advance piece current outer = pure (.reading next others)) :
    (current.read piece = pure (.onward next) ∧ others = outer) ∨
      (piece = .opening ∧ outer.length < nestingLimit ∧
        next = {} ∧ others = current :: outer) ∨
      (piece = .closing ∧ ∃ parent inner, outer = parent :: others ∧
        current.stop = pure (some inner) ∧ next = parent.addFactor inner) := by
  rw [advance.eq_def] at silent
  obtain ⟨step, reads, silent⟩ := Attempt.bind_eq_pure silent
  replace reads := Attempt.ofNoted_eq_pure reads
  cases step with
  | onward other =>
      cases Attempt.pure_injective silent
      exact .inl ⟨reads, rfl⟩
  | inward outside =>
      have opening : piece = .opening :=
        OpenSum.opening_of_inward (congrArg Noted.value reads)
      subst opening
      cases Noted.pure_injective reads
      by_cases room : outer.length < nestingLimit
      · simp only [if_pos room] at silent
        cases Attempt.pure_injective silent
        exact .inr (.inl ⟨rfl, room, rfl, rfl⟩)
      · simp only [if_neg room] at silent
        cases congrArg Attempt.result silent
  | outward total =>
      cases outer with
      | nil => cases Attempt.pure_injective silent
      | cons parent grandparents =>
          by_cases closing : piece = .closing
          · subst closing
            simp only [if_true] at silent
            obtain ⟨joined, closes, silent⟩ := Attempt.bind_eq_pure silent
            obtain ⟨inner, rfl, rfl⟩ :=
              OpenSum.closeGroup_eq_pure (Attempt.ofNoted_eq_pure closes)
            obtain ⟨sum, stops, same⟩ := Noted.bind_eq_pure reads
            cases Noted.pure_injective same
            cases Attempt.pure_injective silent
            exact .inr (.inr ⟨rfl, parent, inner, rfl, stops, rfl⟩)
          · simp only [if_neg closing] at silent
            exact absurd silent (Attempt.note_bind_ne_pure _ _ _)

/-- A piece that is read without notices is read within the open sums. -/
theorem readAll_cons_eq_pure
    {source : String} {total final : Expression} {current : OpenSum}
    {outer : List OpenSum} {piece : Piece} {rest : List Piece}
    (silent : Reader.readAll source ⟨total, current, outer⟩ (piece :: rest) = pure final) :
    ∃ next others, advance piece current outer = pure (.reading next others) ∧
      Reader.readAll source ⟨total, next, others⟩ rest = pure final := by
  rw [Reader.readAll, Reader.read] at silent
  obtain ⟨reader, reads, silent⟩ := Attempt.bind_eq_pure silent
  obtain ⟨step, advances, reads⟩ := Attempt.bind_eq_pure reads
  cases step with
  | reading next others =>
      cases Attempt.pure_injective reads
      exact ⟨next, others, advances, silent⟩
  | ended sum => exact absurd reads (Attempt.note_bind_ne_pure _ _ _)

/-- Without notices no bracket is left open at the end. -/
theorem readAll_nil_eq_pure
    {source : String} {total final : Expression} {current : OpenSum}
    {outer : List OpenSum}
    (silent : Reader.readAll source ⟨total, current, outer⟩ [] = pure final) :
    outer = [] ∧ ∃ sum, current.stop = pure sum := by
  rw [Reader.readAll] at silent
  obtain ⟨sum, closes, -⟩ := Attempt.bind_eq_pure silent
  replace closes := Attempt.ofNoted_eq_pure closes
  cases outer with
  | nil => exact ⟨rfl, sum, closes⟩
  | cons parent others =>
      obtain ⟨inner, -, noted⟩ := Noted.bind_eq_pure closes
      exact absurd noted (Noted.note_bind_ne_pure _ _ _)

end Expression

open Expression

namespace Grammar

/-! ## What an open sum has read -/

/-- The sentence with another primary behind a link. -/
def Sentence.times (link : Link) (primary : Primary) : Sentence → Sentence
  | .first signs term => .first signs (.next term link primary)
  | .next left sign signs term => .next left sign signs (.next term link primary)

theorem Sentence.tokens_times (link : Link) (primary : Primary) (sentence : Sentence) :
    (sentence.times link primary).tokens =
      sentence.tokens ++ (link.tokens ++ primary.tokens) := by
  cases sentence with
  | first signs term =>
      simp only [Sentence.times, Sentence.tokens, Term.tokens, List.append_assoc]
  | next left sign signs term =>
      simp only [Sentence.times, Sentence.tokens, Term.tokens, List.append_assoc]

theorem Sentence.nesting_times (link : Link) (primary : Primary) (sentence : Sentence) :
    (sentence.times link primary).nesting = max sentence.nesting primary.nesting := by
  cases sentence with
  | first signs term => rfl
  | next left sign signs term => exact (max_assoc _ _ _).symm

/-- Where a sum stands when the tokens have been read in it, and nothing was left out;
this many brackets may still be opened in it. -/
inductive Stands (room : Nat) : OpenSum → List Token → Prop
  /-- In front of the first term, behind some of its signs. -/
  | front (signs : List Bool) (negative : Bool) :
      Stands room (before none negative (!signs.isEmpty)) (signTokens signs)
  /-- In front of another term, behind some of its signs. -/
  | between {sentence : Sentence} {tokens : List Token}
      (shallow : sentence.nesting ≤ room)
      (strips : StripsTo tokens sentence.tokens)
      (total : Expression)
      (negative sign : Bool)
      (signs : List Bool) :
      Stands room (before (some total) negative true)
        (tokens ++ signTokens (sign :: signs))
  /-- Behind a factor, or in front of the next one. -/
  | behind {sentence : Sentence} {tokens : List Token}
      (shallow : sentence.nesting ≤ room)
      (strips : StripsTo tokens sentence.tokens)
      (total : Option Expression)
      (negative : Bool)
      (product : Expression)
      (link : Link) :
      Stands room { Grammar.behind total negative product with place := link.place }
        (tokens ++ link.tokens)

theorem signTokens_append (first second : List Bool) :
    signTokens (first ++ second) = signTokens first ++ signTokens second :=
  List.map_append

namespace Stands

variable {room : Nat} {state next : OpenSum} {tokens : List Token}

/-- A sum stands behind the factor that was read last. -/
theorem joint
    {sentence : Sentence}
    (shallow : sentence.nesting ≤ room)
    (strips : StripsTo tokens sentence.tokens)
    (total : Option Expression)
    (negative : Bool)
    (product : Expression) :
    Stands room (Grammar.behind total negative product) tokens := by
  have stands := Stands.behind shallow strips total negative product .adjacent
  rwa [Link.tokens, List.append_nil] at stands

/-- A primary, perhaps with something hanging in it, is read as a factor. -/
theorem addFactor
    (stands : Stands room state tokens)
    {primary : Primary}
    (shallow : primary.nesting ≤ room)
    {more : List Token}
    (begins : BeginsFactor more)
    (strips : StripsTo more primary.tokens)
    (value : Expression) : Stands room (state.addFactor value) (tokens ++ more) := by
  cases stands with
  | front signs negative =>
      have whole : StripsTo (signTokens signs ++ more)
          (Sentence.first signs (.first [] primary)).tokens :=
        (StripsTo.signTokens signs).append strips
      have fits : (Sentence.first signs (.first [] primary)).nesting ≤ room := shallow
      exact joint fits whole none negative _
  | @between sentence tokens left leftStrips total negative sign signs =>
      have whole : StripsTo ((tokens ++ signTokens (sign :: signs)) ++ more)
          (Sentence.next sentence sign signs (.first [] primary)).tokens := by
        rw [List.append_assoc]
        exact leftStrips.append ((StripsTo.signTokens (sign :: signs)).append strips)
      have fits : (Sentence.next sentence sign signs (.first [] primary)).nesting ≤ room :=
        max_le left shallow
      exact joint fits whole (some total) negative _
  | @behind sentence tokens left leftStrips total negative product link =>
      have whole : StripsTo ((tokens ++ link.tokens) ++ more)
          (sentence.times link primary).tokens := by
        rw [List.append_assoc, sentence.tokens_times]
        exact leftStrips.append (StripsTo.link link begins strips)
      have fits : (sentence.times link primary).nesting ≤ room := by
        rw [sentence.nesting_times]
        exact max_le left shallow
      exact joint fits whole total negative _

/-- A sign belongs to the term or the factor that comes next. -/
theorem sign
    (stands : Stands room state tokens)
    {sign : Bool}
    (reads : state.read (.sign sign) = pure (.onward next)) :
    Stands room next (tokens ++ signTokens [sign]) := by
  cases stands with
  | front signs negative =>
      cases Noted.pure_injective reads
      have touched : (!(signs ++ [sign]).isEmpty) = true := by simp
      have stands : Stands room _ _ := .front (signs ++ [sign]) (negative ^^ sign)
      rwa [touched, signTokens_append] at stands
  | @between sentence tokens left strips total negative first signs =>
      cases Noted.pure_injective reads
      rw [List.append_assoc, ← signTokens_append]
      exact .between left strips total (negative ^^ sign) first (signs ++ [sign])
  | @behind sentence tokens left strips total negative product link =>
      cases link with
      | adjacent =>
          cases Noted.pure_injective reads
          rw [Link.tokens, List.append_nil]
          exact .between left strips _ sign sign []
      | star signs =>
          rw [List.append_assoc, Link.tokens, List.cons_append, ← signTokens_append]
          cases signs with
          | nil =>
              cases Noted.pure_injective reads
              exact .behind left strips total negative product (.star [sign])
          | cons first signs =>
              cases Noted.pure_injective reads
              have place : (Link.star (first :: (signs ++ [sign]))).place =
                  .factor (parity first signs ^^ sign) :=
                congrArg Place.factor (parity_append first signs [sign])
              have stands : Stands room _ _ := .behind left strips total negative product
                (.star (first :: (signs ++ [sign])))
              rwa [place] at stands

/-- A star links the factor behind it. -/
theorem star
    (stands : Stands room state tokens)
    (reads : state.read .star = pure (.onward next)) :
    Stands room next (tokens ++ [.star]) := by
  cases stands with
  | front signs negative => exact absurd reads (Noted.note_bind_ne_pure _ _ _)
  | between => exact absurd reads (Noted.note_bind_ne_pure _ _ _)
  | @behind sentence tokens left strips total negative product link =>
      cases link with
      | adjacent =>
          cases Noted.pure_injective reads
          rw [List.append_assoc]
          exact .behind left strips total negative product (.star [])
      | star signs =>
          cases signs with
          | nil => exact absurd reads (Noted.note_bind_ne_pure _ _ _)
          -- Behind signs of a factor a star ends the sum, so it is not read onward.
          | cons first signs => cases Noted.pure_injective reads

/-- Where a sum ends without notices, nothing or a sentence has been read in it, and only
behind the sentence something may hang. -/
theorem stop
    (stands : Stands room state tokens)
    {sum : Option Expression}
    (stops : state.stop = pure sum) :
    (tokens = [] ∧ sum = none) ∨ ∃ sentence : Sentence, sentence.nesting ≤ room ∧
      ∀ rest, SumEnds rest →
        withoutHanging (tokens ++ rest) = sentence.tokens ++ withoutHanging rest := by
  cases stands with
  | front signs negative =>
      cases signs with
      | nil => exact .inl ⟨rfl, (Noted.pure_injective stops).symm⟩
      | cons first signs => exact absurd stops (Noted.note_bind_ne_pure _ _ _)
  | between => exact absurd stops (Noted.note_bind_ne_pure _ _ _)
  | @behind sentence tokens shallow strips total negative product link =>
      refine .inr ⟨sentence, shallow, fun rest ends => ?_⟩
      rw [List.append_assoc, strips]
      cases link with
      | adjacent => rfl
      | star signs =>
          cases signs with
          | nil => exact absurd stops (Noted.note_bind_ne_pure _ _ _)
          -- Of a star alone there is a notice, but none of a star with signs behind it.
          | cons first signs =>
              rw [Link.tokens, List.cons_append, withoutHanging_hanging first signs ends]

end Stands

/-! ## What a reader has read -/

/-- Where the open sums stand when the tokens have been read, and nothing was left out. -/
inductive ReadSoFar : OpenSum → List OpenSum → List Token → Prop
  | outermost {current : OpenSum} {tokens : List Token}
      (stands : Stands nestingLimit current tokens) :
      ReadSoFar current [] tokens
  | inner {current parent : OpenSum} {others : List OpenSum} {inside around : List Token}
      (room : others.length < nestingLimit)
      (stands : Stands (nestingLimit - (others.length + 1)) current inside)
      (reads : ReadSoFar parent others around) :
      ReadSoFar current (parent :: others) (around ++ .opening :: inside)

namespace ReadSoFar

variable {current next : OpenSum} {outer : List OpenSum} {tokens : List Token}

/-- What is read in the innermost sum leaves the others as they are. -/
theorem onward
    (reads : ReadSoFar current outer tokens)
    {more : List Token}
    (step : ∀ inside, Stands (nestingLimit - outer.length) current inside →
      Stands (nestingLimit - outer.length) next (inside ++ more)) :
    ReadSoFar next outer (tokens ++ more) := by
  cases reads with
  | outermost stands => exact .outermost (step _ stands)
  | inner room stands reads =>
      rw [List.append_assoc, List.cons_append]
      exact .inner room (step _ stands) reads

theorem opening
    (reads : ReadSoFar current outer tokens)
    (room : outer.length < nestingLimit) :
    ReadSoFar {} (current :: outer) (tokens ++ [.opening]) :=
  .inner room (.front [] false) reads

/-- A closed bracket is a factor of the sum around it. -/
theorem closing
    {parent : OpenSum}
    (reads : ReadSoFar current (parent :: outer) tokens)
    {sum : Expression}
    (stops : current.stop = pure (some sum)) :
    ReadSoFar (parent.addFactor sum) outer (tokens ++ [.closing]) := by
  cases reads with
  | @inner _ _ _ inside around room stands reads =>
      rcases stands.stop stops with ⟨-, nothing⟩ | ⟨sentence, shallow, strips⟩
      · cases nothing
      -- What hangs in the inner sum goes with the closing bracket behind it.
      have group : StripsTo (.opening :: (inside ++ [.closing]))
          (Primary.group sentence).tokens := by
        refine StripsTo.cons Token.noConfusion fun rest => ?_
        have inner := strips (.closing :: rest) (sumEnds_closing rest)
        rw [withoutHanging_cons Token.noConfusion] at inner
        rw [List.append_assoc, List.append_assoc]
        exact inner
      have begins : BeginsFactor (.opening :: (inside ++ [.closing])) :=
        ⟨_, rfl, rfl, Token.noConfusion⟩
      have fits : (Primary.group sentence).nesting ≤ nestingLimit - outer.length := by
        rw [Primary.nesting]
        omega
      rw [List.append_assoc, List.cons_append]
      exact reads.onward fun _ stands => stands.addFactor fits begins group sum

end ReadSoFar

/-! ## Runs -/

/-- The tokens that a piece is made of. -/
inductive Covers : Piece → List Token → Prop
  | number (value : Decimal) : Covers (.operand (.number value)) [.number value]
  | symbol (name : String) : Covers (.operand (.symbol name)) [.symbol name]
  | multiple (value : Decimal) (name : String) :
      Covers (.operand (.multiple value name)) [.number value, .symbol name]
  | sign (negative : Bool) : Covers (.sign negative) (signTokens [negative])
  | star : Covers .star [.star]
  | opening : Covers .opening [.opening]
  | closing : Covers .closing [.closing]

/-- Tokens cut into what the pieces are made of. -/
inductive Cut : List Piece → List Token → Prop
  | nil : Cut [] []
  | cons {piece : Piece} {front : List Token} {pieces : List Piece} {rest : List Token}
      (covers : Covers piece front)
      (later : Cut pieces rest) :
      Cut (piece :: pieces) (front ++ rest)

/-- The pieces of some tokens are made of them. -/
theorem cut_ofTokens (tokens : List Token) : Cut (Piece.ofTokens tokens) tokens := by
  induction tokens using Piece.ofTokens.induct with
  | case1 => exact .nil
  | case2 value name rest inductionHypothesis =>
      exact .cons (.multiple value name) inductionHypothesis
  | case3 value rest notSymbol inductionHypothesis =>
      rw [ofTokens_number value notSymbol]
      exact .cons (.number value) inductionHypothesis
  | case4 name rest inductionHypothesis => exact .cons (.symbol name) inductionHypothesis
  | case5 rest inductionHypothesis => exact .cons (.sign false) inductionHypothesis
  | case6 rest inductionHypothesis => exact .cons (.sign true) inductionHypothesis
  | case7 rest inductionHypothesis => exact .cons .star inductionHypothesis
  | case8 rest inductionHypothesis => exact .cons .opening inductionHypothesis
  | case9 rest inductionHypothesis => exact .cons .closing inductionHypothesis

/-- A primary without brackets is read as a factor. -/
theorem ReadSoFar.operand
    {current : OpenSum} {outer : List OpenSum} {tokens : List Token}
    (reads : ReadSoFar current outer tokens)
    (primary : Primary)
    (flat : primary.nesting = 0)
    (value : Expression) :
    ReadSoFar (current.addFactor value) outer (tokens ++ primary.tokens) :=
  reads.onward fun _ stands =>
    stands.addFactor (flat ▸ Nat.zero_le _) primary.beginsFactor primary.strips value

/-- Every piece that is read without notices keeps track of the tokens. -/
theorem ReadSoFar.step
    {current next : OpenSum} {outer others : List OpenSum} {tokens front : List Token}
    (reads : ReadSoFar current outer tokens)
    {piece : Piece}
    (covers : Covers piece front)
    (silent : advance piece current outer = pure (.reading next others)) :
    ReadSoFar next others (tokens ++ front) := by
  rcases advance_eq_reading silent with
    ⟨onward, rfl⟩ | ⟨rfl, room, rfl, rfl⟩ | ⟨rfl, parent, sum, rfl, stops, rfl⟩
  · cases covers with
    | number value =>
        cases Noted.pure_injective onward
        exact reads.operand (.number value) rfl _
    | symbol name =>
        cases Noted.pure_injective onward
        exact reads.operand (.symbol name) rfl _
    | multiple value name =>
        cases Noted.pure_injective onward
        exact reads.operand (.multiple value name) rfl _
    | sign negative => exact reads.onward fun _ stands => stands.sign onward
    | star => exact reads.onward fun _ stands => stands.star onward
    | opening => cases Noted.pure_injective onward
    | closing =>
        obtain ⟨sum, -, outward⟩ := Noted.bind_eq_pure onward
        cases Noted.pure_injective outward
  · cases covers
    exact reads.opening room
  · cases covers
    exact reads.closing stops

/-- What is read without notices is a sentence, apart from what hangs in it. -/
theorem ReadSoFar.exists_sentence
    {current : OpenSum} {outer : List OpenSum} {before tokens : List Token}
    (reads : ReadSoFar current outer before)
    {pieces : List Piece}
    (cut : Cut pieces tokens)
    {source : String} {total final : Expression}
    (silent : Reader.readAll source ⟨total, current, outer⟩ pieces = pure final) :
    before ++ tokens = [] ∨ ∃ sentence : Sentence, sentence.nesting ≤ nestingLimit ∧
      withoutHanging (before ++ tokens) = sentence.tokens := by
  induction cut generalizing current outer before with
  | nil =>
      obtain ⟨rfl, sum, stops⟩ := readAll_nil_eq_pure silent
      cases reads with
      | outermost stands =>
          rcases stands.stop stops with ⟨rfl, -⟩ | ⟨sentence, shallow, strips⟩
          · exact .inl rfl
          · have whole := strips [] sumEnds_nil
            rw [withoutHanging, List.append_nil sentence.tokens] at whole
            exact .inr ⟨sentence, shallow, whole⟩
  | cons covers later inductionHypothesis =>
      obtain ⟨next, others, advances, silent⟩ := readAll_cons_eq_pure silent
      rw [← List.append_assoc]
      exact inductionHypothesis (reads.step covers advances) silent

end Grammar
end PolyMatrix
