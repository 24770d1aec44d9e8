import PolyMatrix.Expression.Reader
import PolyMatrix.Proofs.Expression.Grammar

/-!
# The pieces of a sentence

Expressions are read piece by piece, and a number directly in front of a symbol is
one piece with it.  A tree may keep the two apart as neighbours; joining them gives
a tree for the same tokens whose pieces are those of its tokens.
-/

namespace PolyMatrix

open Expression

namespace Grammar

def signPieces (signs : List Bool) : List Piece :=
  signs.map Piece.sign

def Link.pieces : Link → List Piece
  | star signs => .star :: signPieces signs
  | adjacent => []

mutual

def Sentence.pieces : Sentence → List Piece
  | .first signs term => signPieces signs ++ term.pieces
  | .next left sign signs term =>
      left.pieces ++ (signPieces (sign :: signs) ++ term.pieces)

def Term.pieces : Term → List Piece
  | .first signs primary => signPieces signs ++ primary.pieces
  | .next left link primary => left.pieces ++ (link.pieces ++ primary.pieces)

def Primary.pieces : Primary → List Piece
  | .number value => [.operand (.number value)]
  | .symbol name => [.operand (.symbol name)]
  | .multiple value name => [.operand (.multiple value name)]
  | .group inner => .opening :: (inner.pieces ++ [.closing])

end

/-- The primary at the end of a term. -/
def Term.last : Term → Primary
  | .first _ primary => primary
  | .next _ _ primary => primary

/-- A term with a symbol next to it, joined to the number that the term may end
with. -/
def Term.attach (name : String) : Term → Term
  | .first signs (.number value) => .first signs (.multiple value name)
  | .next left link (.number value) => .next left link (.multiple value name)
  | term => .next term .adjacent (.symbol name)

mutual

/-- The tree in which no number stands directly in front of a separate symbol. -/
def Sentence.joined : Sentence → Sentence
  | .first signs term => .first signs term.joined
  | .next left sign signs term => .next left.joined sign signs term.joined

def Term.joined : Term → Term
  | .first signs primary => .first signs primary.joined
  | .next left .adjacent (.symbol name) => left.joined.attach name
  | .next left link primary => .next left.joined link primary.joined

def Primary.joined : Primary → Primary
  | .group inner => .group inner.joined
  | primary => primary

end

/-! ## Joining a symbol to the end of a term -/

/-- The primary is no number. -/
def Primary.IsSealed : Primary → Prop
  | .number _ => False
  | _ => True

theorem Term.attach_of_sealed
    {term : Term}
    (isSealed : term.last.IsSealed)
    (name : String) :
    term.attach name = .next term .adjacent (.symbol name) := by
  unfold Term.attach
  split
  · exact isSealed.elim
  · exact isSealed.elim
  · rfl

theorem Term.last_attach_sealed (name : String) (term : Term) :
    (term.attach name).last.IsSealed := by
  unfold Term.attach
  split
  · trivial
  · trivial
  · trivial

theorem Term.tokens_attach (name : String) (term : Term) :
    (term.attach name).tokens = term.tokens ++ [.symbol name] := by
  unfold Term.attach
  split
  · simp only [Term.tokens, Primary.tokens, List.append_assoc, List.cons_append,
      List.nil_append]
  · simp only [Term.tokens, Primary.tokens, List.append_assoc, List.cons_append,
      List.nil_append]
  · simp only [Term.tokens, Primary.tokens, Link.tokens, List.nil_append]

theorem Term.nesting_attach (name : String) (term : Term) :
    (term.attach name).nesting = term.nesting := by
  unfold Term.attach
  split
  · simp only [Term.nesting, Primary.nesting]
  · simp only [Term.nesting, Primary.nesting]
  · simp only [Term.nesting, Primary.nesting, Nat.max_zero]

theorem Term.value_attach
    (assignment : String → ℚ)
    (name : String)
    (term : Term) :
    (term.attach name).value assignment =
      term.value assignment * assignment name := by
  unfold Term.attach
  split
  · simp only [Term.value, Primary.value, mul_assoc]
  · simp only [Term.value, Primary.value, mul_assoc]
  · simp only [Term.value, Primary.value, Link.value, one_mul]

/-- Joining two primaries does nothing but where a symbol follows directly. -/
theorem Term.joined_next
    (left : Term)
    {link : Link} {primary : Primary}
    (separate : ∀ name, link = .adjacent → primary ≠ .symbol name) :
    (Term.next left link primary).joined =
      .next left.joined link primary.joined := by
  rw [Term.joined]
  exact separate

/-! ## What joining keeps -/

mutual

theorem Sentence.joined_keeps (assignment : String → ℚ) (sentence : Sentence) :
    sentence.joined.tokens = sentence.tokens ∧
      sentence.joined.nesting = sentence.nesting ∧
      sentence.joined.value assignment = sentence.value assignment := by
  cases sentence with
  | first signs term =>
      obtain ⟨tokens, nesting, value⟩ := Term.joined_keeps assignment term
      simp only [Sentence.joined, Sentence.tokens, Sentence.nesting, Sentence.value,
        tokens, nesting, value, and_self]
  | next left sign signs term =>
      obtain ⟨leftTokens, leftNesting, leftValue⟩ :=
        Sentence.joined_keeps assignment left
      obtain ⟨tokens, nesting, value⟩ := Term.joined_keeps assignment term
      simp only [Sentence.joined, Sentence.tokens, Sentence.nesting, Sentence.value,
        leftTokens, leftNesting, leftValue, tokens, nesting, value, and_self]

theorem Term.joined_keeps (assignment : String → ℚ) (term : Term) :
    term.joined.tokens = term.tokens ∧
      term.joined.nesting = term.nesting ∧
      term.joined.value assignment = term.value assignment := by
  cases term with
  | first signs primary =>
      obtain ⟨tokens, nesting, value⟩ := Primary.joined_keeps assignment primary
      simp only [Term.joined, Term.tokens, Term.nesting, Term.value,
        tokens, nesting, value, and_self]
  | next left link primary =>
      obtain ⟨leftTokens, leftNesting, leftValue⟩ :=
        Term.joined_keeps assignment left
      by_cases follows : ∃ name, link = .adjacent ∧ primary = .symbol name
      · obtain ⟨name, rfl, rfl⟩ := follows
        refine ⟨?_, ?_, ?_⟩
        · simp only [Term.joined, Term.tokens_attach, leftTokens, Term.tokens,
            Link.tokens, Primary.tokens, List.nil_append]
        · simp only [Term.joined, Term.nesting_attach, leftNesting, Term.nesting,
            Primary.nesting, Nat.max_zero]
        · simp only [Term.joined, Term.value_attach, leftValue, Term.value,
            Link.value, Primary.value, one_mul]
      · obtain ⟨tokens, nesting, value⟩ := Primary.joined_keeps assignment primary
        rw [Term.joined_next left fun name adjacent symbol =>
          follows ⟨name, adjacent, symbol⟩]
        simp only [Term.tokens, Term.nesting, Term.value, leftTokens, leftNesting,
          leftValue, tokens, nesting, value, and_self]

theorem Primary.joined_keeps (assignment : String → ℚ) (primary : Primary) :
    primary.joined.tokens = primary.tokens ∧
      primary.joined.nesting = primary.nesting ∧
      primary.joined.value assignment = primary.value assignment := by
  cases primary with
  | group inner =>
      obtain ⟨tokens, nesting, value⟩ := Sentence.joined_keeps assignment inner
      simp only [Primary.joined, Primary.tokens, Primary.nesting, Primary.value,
        tokens, nesting, value, and_self]
  | number value => exact ⟨rfl, rfl, rfl⟩
  | symbol name => exact ⟨rfl, rfl, rfl⟩
  | multiple value name => exact ⟨rfl, rfl, rfl⟩

end

theorem Sentence.nesting_joined (sentence : Sentence) :
    sentence.joined.nesting = sentence.nesting :=
  (sentence.joined_keeps fun _ => 0).2.1

/-! ## The pieces of the tokens -/

theorem ofTokens_signTokens (signs : List Bool) (rest : List Token) :
    Piece.ofTokens (signTokens signs ++ rest) =
      signPieces signs ++ Piece.ofTokens rest := by
  induction signs with
  | nil => rfl
  | cons sign later inductionHypothesis =>
      cases sign with
      | false => exact congrArg (List.cons _) inductionHypothesis
      | true => exact congrArg (List.cons _) inductionHypothesis

theorem Link.ofTokens_append (link : Link) (rest : List Token) :
    Piece.ofTokens (link.tokens ++ rest) = link.pieces ++ Piece.ofTokens rest := by
  cases link with
  | star signs => exact congrArg (List.cons _) (ofTokens_signTokens signs rest)
  | adjacent => rfl

/-- The tokens do not begin with a symbol. -/
def Unattached (tokens : List Token) : Prop :=
  ∀ name later, tokens ≠ .symbol name :: later

theorem ofTokens_number
    (value : Decimal)
    {rest : List Token}
    (unattached : Unattached rest) :
    Piece.ofTokens (.number value :: rest) =
      .operand (.number value) :: Piece.ofTokens rest := by
  rw [Piece.ofTokens]
  exact unattached

theorem unattached_signTokens (sign : Bool) (signs : List Bool) (rest : List Token) :
    Unattached (signTokens (sign :: signs) ++ rest) := by
  intro name later same
  cases sign with
  | false => cases same
  | true => cases same

/-- What begins with a link and a primary begins with no symbol, but where the
primary is one that stands next to what is in front of it. -/
theorem unattached_link
    {link : Link} {primary : Primary}
    (separate : ∀ name, link = .adjacent → primary ≠ .symbol name)
    (rest : List Token) :
    Unattached (link.tokens ++ (primary.tokens ++ rest)) := by
  intro name later same
  cases link with
  | star signs => cases same
  | adjacent =>
      cases primary with
      | number value => cases same
      | symbol other => exact separate other rfl rfl
      | multiple value other => cases same
      | group inner => cases same

theorem Primary.sealed_or_number (primary : Primary) :
    primary.IsSealed ∨ ∃ value, primary = .number value := by
  cases primary with
  | number value => exact .inr ⟨value, rfl⟩
  | symbol name => exact .inl trivial
  | multiple value name => exact .inl trivial
  | group inner => exact .inl trivial

theorem Primary.IsSealed.joined
    {primary : Primary}
    (isSealed : primary.IsSealed) : primary.joined.IsSealed := by
  cases primary with
  | number value => exact isSealed.elim
  | symbol name => trivial
  | multiple value name => trivial
  | group inner => trivial

/-- A symbol behind a term that ends with no number is a piece of its own. -/
theorem Term.pieces_attach_of_sealed
    {term : Term}
    (isSealed : term.last.IsSealed)
    (name : String)
    (rest : List Token) :
    (term.attach name).pieces ++ Piece.ofTokens rest =
      term.pieces ++ Piece.ofTokens (.symbol name :: rest) := by
  rw [Term.attach_of_sealed isSealed, Term.pieces, List.append_assoc]
  rfl

/-! The pieces of the tokens of a tree are those of the joined tree.  A number at
the end of a term is a piece of its own only if no symbol follows, so for a term
both are shown together: what its pieces are, and what they are with a symbol behind
it. -/

mutual

theorem Sentence.ofTokens_append
    (sentence : Sentence)
    {rest : List Token}
    (unattached : Unattached rest) :
    Piece.ofTokens (sentence.tokens ++ rest) =
      sentence.joined.pieces ++ Piece.ofTokens rest := by
  cases sentence with
  | first signs term =>
      rw [Sentence.tokens, Sentence.joined, Sentence.pieces, List.append_assoc,
        List.append_assoc, ofTokens_signTokens,
        (Term.ofTokens_append term).1 (.inr unattached)]
  | next left sign signs term =>
      rw [Sentence.tokens, Sentence.joined, Sentence.pieces, List.append_assoc,
        List.append_assoc, List.append_assoc, List.append_assoc,
        Sentence.ofTokens_append left (unattached_signTokens sign signs _),
        ofTokens_signTokens, (Term.ofTokens_append term).1 (.inr unattached)]

theorem Term.ofTokens_append (term : Term) :
    (∀ {rest : List Token}, term.last.IsSealed ∨ Unattached rest →
      Piece.ofTokens (term.tokens ++ rest) =
        term.joined.pieces ++ Piece.ofTokens rest) ∧
    ∀ (name : String) (rest : List Token),
      Piece.ofTokens (term.tokens ++ .symbol name :: rest) =
        (term.joined.attach name).pieces ++ Piece.ofTokens rest := by
  cases term with
  | first signs primary =>
      have plain : ∀ {rest : List Token}, primary.IsSealed ∨ Unattached rest →
          Piece.ofTokens ((Term.first signs primary).tokens ++ rest) =
            (Term.first signs primary).joined.pieces ++ Piece.ofTokens rest := by
        intro rest apart
        rw [Term.tokens, Term.joined, Term.pieces, List.append_assoc,
          List.append_assoc, ofTokens_signTokens, Primary.ofTokens_append primary apart]
      refine ⟨plain, ?_⟩
      intro name rest
      rcases primary.sealed_or_number with isSealed | ⟨value, rfl⟩
      · have ending : (Term.first signs primary.joined).last.IsSealed :=
          isSealed.joined
        rw [plain (.inl isSealed)]
        exact (Term.pieces_attach_of_sealed ending name rest).symm
      · change Piece.ofTokens ((signTokens signs ++ [.number value]) ++ _) =
          (signPieces signs ++ [.operand (.multiple value name)]) ++ _
        rw [List.append_assoc, List.append_assoc, ofTokens_signTokens]
        rfl
  | next left link primary =>
      obtain ⟨leftPlain, leftAttached⟩ := Term.ofTokens_append left
      by_cases follows : ∃ name, link = .adjacent ∧ primary = .symbol name
      · obtain ⟨last, rfl, rfl⟩ := follows
        have plain : ∀ rest : List Token,
            Piece.ofTokens ((Term.next left .adjacent (.symbol last)).tokens ++ rest) =
              (left.joined.attach last).pieces ++ Piece.ofTokens rest := by
          intro rest
          rw [Term.tokens, List.append_assoc]
          exact leftAttached last rest
        refine ⟨fun _ => plain _, ?_⟩
        intro name rest
        rw [plain]
        exact (Term.pieces_attach_of_sealed
          (left.joined.last_attach_sealed last) name rest).symm
      · have separate : ∀ name, link = .adjacent → primary ≠ .symbol name :=
          fun name adjacent symbol => follows ⟨name, adjacent, symbol⟩
        have front : ∀ rest : List Token,
            Piece.ofTokens ((Term.next left link primary).tokens ++ rest) =
              left.joined.pieces ++
                (link.pieces ++ Piece.ofTokens (primary.tokens ++ rest)) := by
          intro rest
          rw [Term.tokens, List.append_assoc, List.append_assoc,
            leftPlain (.inr (unattached_link separate rest)), Link.ofTokens_append]
        have plain : ∀ {rest : List Token}, primary.IsSealed ∨ Unattached rest →
            Piece.ofTokens ((Term.next left link primary).tokens ++ rest) =
              (Term.next left.joined link primary.joined).pieces ++
                Piece.ofTokens rest := by
          intro rest apart
          rw [front, Term.pieces, List.append_assoc, List.append_assoc,
            Primary.ofTokens_append primary apart]
        rw [Term.joined_next left separate]
        refine ⟨plain, ?_⟩
        intro name rest
        rcases primary.sealed_or_number with isSealed | ⟨value, rfl⟩
        · have ending : (Term.next left.joined link primary.joined).last.IsSealed :=
            isSealed.joined
          rw [plain (.inl isSealed)]
          exact (Term.pieces_attach_of_sealed ending name rest).symm
        · rw [front]
          change _ = (left.joined.pieces ++
            (link.pieces ++ [.operand (.multiple value name)])) ++ _
          rw [List.append_assoc, List.append_assoc]
          rfl

theorem Primary.ofTokens_append
    (primary : Primary)
    {rest : List Token}
    (apart : primary.IsSealed ∨ Unattached rest) :
    Piece.ofTokens (primary.tokens ++ rest) =
      primary.joined.pieces ++ Piece.ofTokens rest := by
  cases primary with
  | number value =>
      rcases apart with isSealed | unattached
      · exact isSealed.elim
      · exact ofTokens_number value unattached
  | symbol name => rfl
  | multiple value name => rfl
  | group inner =>
      have closed : Unattached (.closing :: rest) := by
        intro name later same
        cases same
      change Piece.ofTokens (.opening :: ((inner.tokens ++ [.closing]) ++ rest)) =
        .opening :: ((inner.joined.pieces ++ [.closing]) ++ Piece.ofTokens rest)
      rw [List.append_assoc, List.append_assoc]
      exact congrArg (List.cons _) (Sentence.ofTokens_append inner closed)

end

/-- The pieces of the tokens of a sentence are those of its joined tree. -/
theorem Sentence.ofTokens_tokens (sentence : Sentence) :
    Piece.ofTokens sentence.tokens = sentence.joined.pieces := by
  have unattached : Unattached [] := by
    intro name later same
    cases same
  have pieces := sentence.ofTokens_append unattached
  rw [List.append_nil] at pieces
  rw [pieces]
  exact List.append_nil _

end Grammar
end PolyMatrix
