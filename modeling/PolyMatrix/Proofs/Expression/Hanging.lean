import Mathlib.Data.List.Basic
import PolyMatrix.Proofs.Expression.Grammar

/-!
# Hanging signs

Signs behind a star belong to the factor that follows them.  Where no factor follows,
because the sum ends there, the star and its signs hang in the air.  In a sentence
nothing hangs.
-/

namespace PolyMatrix

namespace Token

/-- A plus or a minus. -/
def isSign : Token → Bool
  | plus | minus => true
  | number _ | symbol _ | star | opening | closing => false

end Token

namespace Grammar

/-- The tokens begin with signs, and behind the signs a sum ends. -/
def hangs (tokens : List Token) : Bool :=
  tokens.head?.any Token.isSign &&
    (tokens.dropWhile Token.isSign).head?.all fun next => next == .closing

/-- The tokens without the stars whose signs are followed by no factor, and without
these signs. -/
def withoutHanging : List Token → List Token
  | [] => []
  | .star :: rest =>
      if hangs rest then (withoutHanging rest).dropWhile Token.isSign
      else .star :: withoutHanging rest
  | token :: rest => token :: withoutHanging rest

theorem withoutHanging_cons
    {token : Token}
    (notStar : token ≠ .star)
    (rest : List Token) :
    withoutHanging (token :: rest) = token :: withoutHanging rest := by
  rw [withoutHanging]
  exact notStar

/-! ## Runs of signs -/

theorem isSign_of_mem_signTokens
    {signs : List Bool} {token : Token}
    (member : token ∈ signTokens signs) : token.isSign = true := by
  obtain ⟨negative, -, rfl⟩ := List.mem_map.mp member
  cases negative with
  | false => rfl
  | true => rfl

theorem exists_signTokens_append (tokens : List Token) :
    ∃ signs, tokens = signTokens signs ++ tokens.dropWhile Token.isSign := by
  induction tokens with
  | nil => exact ⟨[], rfl⟩
  | cons token rest inductionHypothesis =>
      obtain ⟨signs, same⟩ := inductionHypothesis
      cases token with
      | plus => exact ⟨false :: signs, congrArg (List.cons _) same⟩
      | minus => exact ⟨true :: signs, congrArg (List.cons _) same⟩
      | number | symbol | star | opening | closing => exact ⟨[], rfl⟩

theorem dropWhile_signTokens (signs : List Bool) (rest : List Token) :
    (signTokens signs ++ rest).dropWhile Token.isSign = rest.dropWhile Token.isSign :=
  List.dropWhile_append_of_pos fun _ member => isSign_of_mem_signTokens member

theorem withoutHanging_signTokens (signs : List Bool) (rest : List Token) :
    withoutHanging (signTokens signs ++ rest) =
      signTokens signs ++ withoutHanging rest := by
  induction signs with
  | nil => rfl
  | cons negative later inductionHypothesis =>
      change withoutHanging (_ :: (signTokens later ++ rest)) = _
      rw [withoutHanging_cons (by cases negative <;> exact Token.noConfusion),
        inductionHypothesis]
      rfl

/-- A sum ends in front of the tokens. -/
def SumEnds (tokens : List Token) : Prop :=
  ∀ next ∈ tokens.head?, next = .closing

theorem sumEnds_nil : SumEnds [] := by
  rintro next ⟨⟩

theorem sumEnds_closing (rest : List Token) : SumEnds (.closing :: rest) := by
  rintro next ⟨⟩
  rfl

theorem SumEnds.dropWhile
    {tokens : List Token}
    (ends : SumEnds tokens) : tokens.dropWhile Token.isSign = tokens := by
  cases tokens with
  | nil => rfl
  | cons next later =>
      cases ends next rfl
      rfl

theorem SumEnds.withoutHanging
    {tokens : List Token}
    (ends : SumEnds tokens) : SumEnds (withoutHanging tokens) := by
  cases tokens with
  | nil => exact ends
  | cons next later =>
      cases ends next rfl
      exact ends

theorem hangs_iff {tokens : List Token} :
    hangs tokens = true ↔ ∃ sign signs rest,
      tokens = signTokens (sign :: signs) ++ rest ∧ SumEnds rest := by
  rw [hangs, Bool.and_eq_true, Option.any_eq_true, Option.all_eq_true]
  constructor
  · rintro ⟨⟨first, head, isSign⟩, ends⟩
    replace ends : SumEnds (tokens.dropWhile Token.isSign) :=
      fun next head => beq_iff_eq.mp (ends next head)
    obtain ⟨signs, same⟩ := exists_signTokens_append tokens
    cases signs with
    | nil =>
        -- Then the first token, a sign, would be the one that ends the sum.
        have whole : tokens = tokens.dropWhile Token.isSign := same
        rw [← whole] at ends
        cases ends first head
        cases isSign
    | cons sign signs => exact ⟨sign, signs, _, same, ends⟩
  · rintro ⟨sign, signs, rest, rfl, ends⟩
    have isSign := @isSign_of_mem_signTokens [sign] _ (List.mem_singleton_self _)
    rw [dropWhile_signTokens, ends.dropWhile]
    exact ⟨⟨_, rfl, isSign⟩, fun next head => beq_iff_eq.mpr (ends next head)⟩

/-- Signs that hang behind a star are dropped with it. -/
theorem withoutHanging_hanging
    (sign : Bool)
    (signs : List Bool)
    {rest : List Token}
    (ends : SumEnds rest) :
    withoutHanging (.star :: (signTokens (sign :: signs) ++ rest)) =
      withoutHanging rest := by
  rw [withoutHanging, if_pos (hangs_iff.mpr ⟨sign, signs, rest, rfl, ends⟩),
    withoutHanging_signTokens, dropWhile_signTokens, ends.withoutHanging.dropWhile]

/-- A star and a sign at the end of brackets hang. -/
example :
    withoutHanging [.opening, .symbol "x", .star, .minus, .closing, .symbol "y"] =
      [.opening, .symbol "x", .closing, .symbol "y"] := by
  decide

/-- The tokens begin with a factor that has no signs in front of it. -/
def BeginsFactor (tokens : List Token) : Prop :=
  ∃ first ∈ tokens.head?, first.isSign = false ∧ first ≠ .closing

/-- Signs of a factor are kept with the star in front of them. -/
theorem withoutHanging_link
    (link : Link)
    {tokens : List Token}
    (begins : BeginsFactor tokens) :
    withoutHanging (link.tokens ++ tokens) = link.tokens ++ withoutHanging tokens := by
  cases link with
  | adjacent => rfl
  | star signs =>
      have stays : ¬hangs (signTokens signs ++ tokens) = true := by
        obtain ⟨first, head, noSign, notClosing⟩ := begins
        cases tokens with
        | nil => cases head
        | cons other rest =>
            cases head
            rw [hangs, dropWhile_signTokens,
              List.dropWhile_cons_of_neg (Bool.eq_false_iff.mp noSign), Bool.and_eq_true]
            exact fun both => notClosing (beq_iff_eq.mp both.2)
      change withoutHanging (.star :: (signTokens signs ++ tokens)) = _
      rw [withoutHanging, if_neg stays, withoutHanging_signTokens]
      rfl

theorem BeginsFactor.append
    {tokens : List Token}
    (begins : BeginsFactor tokens)
    (rest : List Token) : BeginsFactor (tokens ++ rest) := by
  obtain ⟨first, head, begins⟩ := begins
  exact ⟨first, List.mem_head?_append_of_mem_head? head, begins⟩

/-! ## Parts of a list -/

/-- Whatever follows the first tokens, they are the second ones without what hangs. -/
def StripsTo (tokens stripped : List Token) : Prop :=
  ∀ rest, withoutHanging (tokens ++ rest) = stripped ++ withoutHanging rest

namespace StripsTo

variable {tokens stripped others otherStripped : List Token}

theorem nil : StripsTo [] [] :=
  fun _ => rfl

theorem cons
    {token : Token}
    (notStar : token ≠ .star)
    (strips : StripsTo tokens stripped) : StripsTo (token :: tokens) (token :: stripped) := by
  intro rest
  rw [List.cons_append, withoutHanging_cons notStar, strips, List.cons_append]

theorem append
    (strips : StripsTo tokens stripped)
    (later : StripsTo others otherStripped) :
    StripsTo (tokens ++ others) (stripped ++ otherStripped) := by
  intro rest
  rw [List.append_assoc, strips, later, List.append_assoc]

theorem signTokens (signs : List Bool) :
    StripsTo (signTokens signs) (Grammar.signTokens signs) :=
  withoutHanging_signTokens signs

theorem link
    (link : Link)
    (begins : BeginsFactor tokens)
    (strips : StripsTo tokens stripped) :
    StripsTo (link.tokens ++ tokens) (link.tokens ++ stripped) := by
  intro rest
  rw [List.append_assoc, withoutHanging_link link (begins.append rest), strips,
    List.append_assoc]

end StripsTo

/-! ## Sentences -/

theorem Primary.beginsFactor (primary : Primary) : BeginsFactor primary.tokens := by
  cases primary with
  | number | symbol | multiple | group => exact ⟨_, rfl, rfl, Token.noConfusion⟩

mutual

theorem Sentence.strips (sentence : Sentence) :
    StripsTo sentence.tokens sentence.tokens := by
  cases sentence with
  | first signs term => exact (StripsTo.signTokens signs).append term.strips
  | next left sign signs term =>
      exact left.strips.append
        ((StripsTo.signTokens (sign :: signs)).append term.strips)

theorem Term.strips (term : Term) : StripsTo term.tokens term.tokens := by
  cases term with
  | first signs primary => exact (StripsTo.signTokens signs).append primary.strips
  | next left link primary =>
      exact left.strips.append (.link link primary.beginsFactor primary.strips)

theorem Primary.strips (primary : Primary) :
    StripsTo primary.tokens primary.tokens := by
  cases primary with
  | number value => exact .cons Token.noConfusion .nil
  | symbol name => exact .cons Token.noConfusion .nil
  | multiple value name => exact .cons Token.noConfusion (.cons Token.noConfusion .nil)
  | group inner =>
      exact .cons Token.noConfusion (inner.strips.append (.cons Token.noConfusion .nil))

end

/-- In a sentence nothing hangs. -/
theorem Sentence.withoutHanging_tokens (sentence : Sentence) :
    withoutHanging sentence.tokens = sentence.tokens := by
  have strips := sentence.strips []
  rwa [List.append_nil, withoutHanging, List.append_nil] at strips

end Grammar
end PolyMatrix
