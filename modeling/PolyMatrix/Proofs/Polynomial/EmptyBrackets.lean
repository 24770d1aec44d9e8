import Mathlib.Algebra.MvPolynomial.CommRing
import PolyMatrix.Proofs.Expression.EmptyBrackets
import PolyMatrix.Proofs.Polynomial.RingLaws
import PolyMatrix.Proofs.Polynomial.Skipping

/-!
# Polynomials with brackets around nothing

Brackets around nothing between a plus and another sign contribute nothing, but the sign
behind them is lost.  In front of a plus this makes no difference; in front of a minus a term
is added that ought to be subtracted.
-/

namespace PolyMatrix

open Expression (nestingLimit)
open Grammar (Sentence Term signTokens afterEmptyBrackets)

namespace Polynomial

/-! ## Tokens around the brackets -/

section Unital

variable {K : Type} [Add K] [Neg K] [Mul K] [Coefficient K] [Coefficient.Unital K]

/-- A sentence is read as the polynomial of its expression. -/
theorem ofTokens_sentence
    {sentence : Sentence}
    (shallow : sentence.nesting ≤ nestingLimit) :
    ofTokens sentence.tokens =
      .ok (sentence.joined.expression.toPolynomial : Polynomial K) := by
  rw [ofTokens, sentence.expression_ofTokens "" shallow]
  exact congrArg Except.ok (toPolynomial_alone sentence.joined.expression).1

variable {term : Term} (shallow : term.nesting ≤ nestingLimit) (unsigned : term.signs = [])
include shallow unsigned

/-- A term without signs is read as its product. -/
theorem ofTokens_term :
    ofTokens term.tokens = .ok (term.joined.expression.toPolynomial : Polynomial K) := by
  obtain ⟨alone, -⟩ := Sentence.expression_joined_unsigned unsigned false
  have reads : (ofTokens (Sentence.first [] term).tokens : Except Fault (Polynomial K)) = _ :=
    ofTokens_sentence shallow
  rw [alone, (toPolynomial_alone _).1] at reads
  exact reads

/-- A sign in front of a term scales its product. -/
theorem ofTokens_signed_term (negative : Bool) :
    ofTokens (signTokens [negative] ++ term.tokens) =
      .ok (zero.addScaled (term.joined.expression.toPolynomial : Polynomial K)
        (Coefficient.sign negative)) := by
  obtain ⟨-, signed, -⟩ := Sentence.expression_joined_unsigned unsigned negative
  have reads : (ofTokens (Sentence.first [negative] term).tokens :
      Except Fault (Polynomial K)) = _ :=
    ofTokens_sentence shallow
  rw [signed] at reads
  exact reads

/-- A sign between a sentence and a term scales the product that is added. -/
theorem ofTokens_sentence_term
    {sentence : Sentence}
    (shallowSentence : sentence.nesting ≤ nestingLimit)
    (negative : Bool) :
    ofTokens (sentence.tokens ++ (signTokens [negative] ++ term.tokens)) =
      .ok ((sentence.joined.expression.toPolynomial : Polynomial K).addScaled
        term.joined.expression.toPolynomial (Coefficient.sign negative)) := by
  obtain ⟨-, -, behind⟩ := Sentence.expression_joined_unsigned unsigned negative
  have reads : (ofTokens (Sentence.next sentence negative [] term).tokens :
      Except Fault (Polynomial K)) = _ :=
    ofTokens_sentence (max_le shallowSentence shallow)
  rw [behind] at reads
  rw [addScaled, withoutNote_toPolynomial]
  exact reads

/-- With brackets around nothing in front of it, a sign is as good as absent. -/
theorem ofTokens_emptyBrackets_term (negative : Bool) :
    ofTokens (afterEmptyBrackets negative term) =
      .ok (term.joined.expression.toPolynomial : Polynomial K) := by
  obtain ⟨alone, -⟩ := Sentence.expression_joined_unsigned unsigned false
  rw [ofTokens, Grammar.result_ofTokens_afterEmptyBrackets shallow, alone]
  change Except.ok _ = Except.ok _
  rw [(toPolynomial_alone _).1, (toPolynomial_alone _).1]

theorem ofTokens_sentence_emptyBrackets_term
    {sentence : Sentence}
    (shallowSentence : sentence.nesting ≤ nestingLimit)
    (negative : Bool) :
    ofTokens (sentence.tokens ++ .plus :: afterEmptyBrackets negative term) =
      .ok ((sentence.joined.expression.toPolynomial : Polynomial K).add
        term.joined.expression.toPolynomial) := by
  obtain ⟨alone, -⟩ := Sentence.expression_joined_unsigned unsigned false
  rw [ofTokens, Sentence.result_ofTokens_emptyBrackets shallow shallowSentence, alone]
  change Except.ok _ = Except.ok _
  rw [Expression.toPolynomial, (toPolynomial_alone _).1, (toPolynomial_alone _).1, add,
    addScaled, withoutNote_toPolynomial]
  rfl

end Unital

/-! ## Texts around the brackets -/

/-- How brackets around nothing are read between two texts of which the polynomials are `p`
and `q`, and at the front of the second one. -/
structure LosesSign (left right : String) (p q : Polynomial ℤ) : Prop where
  operands : (parse left).result = .ok p ∧ (parse right).result = .ok q
  /-- A plus behind the brackets is read as without them. -/
  plus : (parse (left ++ " + () + " ++ right) : Attempt (Polynomial ℤ)).result =
      (parse (left ++ " + " ++ right)).result ∧
    (parse ("() + " ++ right) : Attempt (Polynomial ℤ)).result = (parse ("+ " ++ right)).result
  /-- A minus behind the brackets is read as a plus without them. -/
  minus : (parse (left ++ " + () - " ++ right) : Attempt (Polynomial ℤ)).result =
      (parse (left ++ " + " ++ right)).result ∧
    (parse ("() - " ++ right) : Attempt (Polynomial ℤ)).result = (parse ("+ " ++ right)).result
  /-- Without the brackets, signs are what they say. -/
  signs : (parse (left ++ " + " ++ right)).result = .ok (p.add q) ∧
    (parse (left ++ " - " ++ right)).result = .ok (p.subtract q) ∧
    (parse ("+ " ++ right)).result = .ok q ∧ (parse ("- " ++ right)).result = .ok q.negate
  /-- So a minus makes no difference only in front of nothing. -/
  agrees : ((parse (left ++ " + () - " ++ right) : Attempt (Polynomial ℤ)).result =
      (parse (left ++ " - " ++ right)).result ↔ q = zero) ∧
    ((parse ("() - " ++ right) : Attempt (Polynomial ℤ)).result =
      (parse ("- " ++ right)).result ↔ q = zero)

theorem eq_zero_of_meaning_eq_neg
    {q : Polynomial ℤ}
    (canonical : q.Canonical)
    (noNote : q.note = none)
    (same : q.meaning = -q.meaning) : q = zero := by
  refine canonical.eq_of_meaning_eq .zero noNote (MvPolynomial.ext _ _ fun monomial => ?_)
  have coefficients := congrArg (MvPolynomial.coeff monomial) same
  rw [MvPolynomial.coeff_neg] at coefficients
  rw [meaning_zero, MvPolynomial.coeff_zero]
  omega

/-- A polynomial is added and subtracted alike only if it is zero. -/
theorem add_eq_subtract_iff
    {p q : Polynomial ℤ}
    (canonical : q.Canonical)
    (noNote : q.note = none) : p.add q = p.subtract q ↔ q = zero := by
  constructor
  · intro same
    have meanings := congrArg meaning same
    rw [meaning_add, meaning_subtract, sub_eq_add_neg, add_right_inj] at meanings
    exact eq_zero_of_meaning_eq_neg canonical noNote meanings
  · rintro rfl
    rfl

theorem eq_negate_iff
    {q : Polynomial ℤ}
    (canonical : q.Canonical)
    (noNote : q.note = none) : q = q.negate ↔ q = zero := by
  constructor
  · intro same
    have meanings := congrArg meaning same
    rw [meaning_negate] at meanings
    exact eq_zero_of_meaning_eq_neg canonical noNote meanings
  · rintro rfl
    exact (multiplyTerm_zero .unit (-Coefficient.one)).symm

theorem result_parse_of_written
    {source : String} {tokens : List Token} {text : List Char}
    (characters : source.toList = text)
    (written : Token.Written tokens text) :
    (parse source : Attempt (Polynomial ℤ)).result = ofTokens tokens := by
  apply result_parse_of_scan
  rw [Token.scan, characters, written.scanFrom_eq, Attempt.result_pure]

theorem toList_between (left middle right : String) :
    (left ++ middle ++ right).toList = left.toList ++ (middle.toList ++ right.toList) := by
  rw [String.toList_append, String.toList_append, List.append_assoc]

/-- The character of a sign. -/
def signCharacter (negative : Bool) : Char :=
  if negative then '-' else '+'

section Written

variable {term : Term} {text : List Char} (written : Token.Written term.tokens text)
include written

theorem written_signed (negative : Bool) :
    Token.Written (signTokens [negative] ++ term.tokens)
      (signCharacter negative :: ' ' :: text) := by
  cases negative with
  | false => exact .character .plus trivial (.blank rfl written)
  | true => exact .character .hyphen trivial (.blank rfl written)

theorem written_afterEmptyBrackets (negative : Bool) :
    Token.Written (afterEmptyBrackets negative term)
      ('(' :: ')' :: ' ' :: signCharacter negative :: ' ' :: text) :=
  .character .opening trivial (.character .closing trivial
    (.blank rfl (written_signed written negative)))

variable {sentence : Sentence} {left : List Char}
  (writtenLeft : Token.Written sentence.tokens left)
include writtenLeft

theorem written_sentence_term (negative : Bool) :
    Token.Written (sentence.tokens ++ (signTokens [negative] ++ term.tokens))
      (left ++ ' ' :: signCharacter negative :: ' ' :: text) :=
  writtenLeft.append (.blank rfl (written_signed written negative)) ⟨rfl, rfl⟩

theorem written_sentence_emptyBrackets_term (negative : Bool) :
    Token.Written (sentence.tokens ++ .plus :: afterEmptyBrackets negative term)
      (left ++ ' ' :: '+' :: ' ' :: '(' :: ')' :: ' ' :: signCharacter negative :: ' ' ::
        text) :=
  writtenLeft.append (.blank rfl (.character .plus trivial
    (.blank rfl (written_afterEmptyBrackets written negative)))) ⟨rfl, rfl⟩

end Written

/-- Subtracting from nothing negates. -/
theorem zero_addScaled_minus (q : Polynomial ℤ) :
    zero.addScaled q (Coefficient.sign true) = q.negate := by
  refine (Canonical.zero.addScaled q _).eq_of_meaning_eq (canonical_negate q) ?_ ?_
  · rw [note_addScaled, negate, scale, note_multiplyTerm]
  · rw [meaning_addScaled, meaning_negate, meaning_zero, zero_add, Coefficient.sign_true]
    change _ * MvPolynomial.C (-1) = _
    rw [map_neg, MvPolynomial.C_1, mul_neg_one]

section Term

variable {term : Term} {right : String}
  (shallowTerm : term.nesting ≤ nestingLimit)
  (unsigned : term.signs = [])
  (writtenRight : Token.Written term.tokens right.toList)
include shallowTerm unsigned writtenRight

/-- Behind brackets around nothing any sign is read as a plus. -/
theorem result_parse_emptyBrackets :
    (parse ("() + " ++ right)).result =
        .ok (term.joined.expression.toPolynomial : Polynomial ℤ) ∧
      (parse ("() - " ++ right)).result =
        .ok (term.joined.expression.toPolynomial : Polynomial ℤ) := by
  constructor
  · rw [result_parse_of_written String.toList_append
        (written_afterEmptyBrackets writtenRight false),
      ofTokens_emptyBrackets_term shallowTerm unsigned]
  · rw [result_parse_of_written String.toList_append
        (written_afterEmptyBrackets writtenRight true),
      ofTokens_emptyBrackets_term shallowTerm unsigned]

/-- A sign at the front of a text is what it says. -/
theorem result_parse_signed :
    (parse ("+ " ++ right)).result =
        .ok (term.joined.expression.toPolynomial : Polynomial ℤ) ∧
      (parse ("- " ++ right)).result =
        .ok (term.joined.expression.toPolynomial : Polynomial ℤ).negate := by
  constructor
  · rw [result_parse_of_written String.toList_append (written_signed writtenRight false),
      ofTokens_signed_term shallowTerm unsigned]
    exact congrArg Except.ok (toPolynomial_alone _).1
  · rw [result_parse_of_written String.toList_append (written_signed writtenRight true),
      ofTokens_signed_term shallowTerm unsigned, zero_addScaled_minus]

variable {sentence : Sentence} {left : String}
  (shallow : sentence.nesting ≤ nestingLimit)
  (writtenLeft : Token.Written sentence.tokens left.toList)
include shallow writtenLeft

/-- Behind brackets around nothing in a sum any sign is read as a plus. -/
theorem result_parse_sentence_emptyBrackets :
    let sum : Polynomial ℤ :=
      sentence.joined.expression.toPolynomial.add term.joined.expression.toPolynomial
    (parse (left ++ " + () + " ++ right)).result = .ok sum ∧
      (parse (left ++ " + () - " ++ right)).result = .ok sum := by
  constructor
  · rw [result_parse_of_written (toList_between left _ right)
        (written_sentence_emptyBrackets_term writtenRight writtenLeft false),
      ofTokens_sentence_emptyBrackets_term shallowTerm unsigned shallow]
  · rw [result_parse_of_written (toList_between left _ right)
        (written_sentence_emptyBrackets_term writtenRight writtenLeft true),
      ofTokens_sentence_emptyBrackets_term shallowTerm unsigned shallow]

/-- A sign in a sum is what it says. -/
theorem result_parse_sentence_signed :
    let p : Polynomial ℤ := sentence.joined.expression.toPolynomial
    let q : Polynomial ℤ := term.joined.expression.toPolynomial
    (parse (left ++ " + " ++ right)).result = .ok (p.add q) ∧
      (parse (left ++ " - " ++ right)).result = .ok (p.subtract q) := by
  intro p q
  constructor
  · rw [result_parse_of_written (toList_between left _ right)
        (written_sentence_term writtenRight writtenLeft false),
      ofTokens_sentence_term shallowTerm unsigned shallow]
    rfl
  · rw [result_parse_of_written (toList_between left _ right)
        (written_sentence_term writtenRight writtenLeft true),
      ofTokens_sentence_term shallowTerm unsigned shallow]
    rfl

end Term

/-- Between a sentence and a term without signs, and in front of the term, brackets around
nothing take the sign behind them away. -/
theorem parse_emptyBrackets
    {sentence : Sentence} {term : Term}
    (shallow : sentence.nesting ≤ nestingLimit)
    (shallowTerm : term.nesting ≤ nestingLimit)
    (unsigned : term.signs = [])
    {left right : String}
    (writtenLeft : Token.Written sentence.tokens left.toList)
    (writtenRight : Token.Written term.tokens right.toList) :
    ∃ p q, LosesSign left right p q := by
  let p : Polynomial ℤ := sentence.joined.expression.toPolynomial
  let q : Polynomial ℤ := term.joined.expression.toPolynomial
  have canonical : q.Canonical := canonical_toPolynomial _
  have noNote : q.note = none := note_toPolynomial _
  obtain ⟨bracketsPlus, bracketsMinus⟩ :=
    result_parse_emptyBrackets shallowTerm unsigned writtenRight
  obtain ⟨plus, minus⟩ := result_parse_signed shallowTerm unsigned writtenRight
  obtain ⟨betweenPlus, betweenMinus⟩ :=
    result_parse_sentence_emptyBrackets shallowTerm unsigned writtenRight shallow writtenLeft
  obtain ⟨sum, difference⟩ :=
    result_parse_sentence_signed shallowTerm unsigned writtenRight shallow writtenLeft
  refine ⟨p, q, ?_⟩
  constructor
  case operands =>
    exact ⟨(result_parse_of_written rfl writtenLeft).trans (ofTokens_sentence shallow),
      (result_parse_of_written rfl writtenRight).trans (ofTokens_term shallowTerm unsigned)⟩
  case plus => exact ⟨betweenPlus.trans sum.symm, bracketsPlus.trans plus.symm⟩
  case minus => exact ⟨betweenMinus.trans sum.symm, bracketsMinus.trans plus.symm⟩
  case signs => exact ⟨sum, difference, plus, minus⟩
  case agrees =>
    rw [betweenMinus, bracketsMinus, difference, minus, Except.ok.injEq, Except.ok.injEq]
    exact ⟨add_eq_subtract_iff canonical noNote, eq_negate_iff canonical noNote⟩

/-- Between a product and a symbol. -/
theorem parse_emptyBrackets_product : ∃ p q, LosesSign "2y*y" "x" p q := by
  let sentence : Sentence :=
    .first [] (.next (.next (.first [] (.number ⟨2, 0⟩)) .adjacent (.symbol "y"))
      (.star []) (.symbol "y"))
  let term : Term := .first [] (.symbol "x")
  have two : Token.Spells (.number ⟨Nat.ofDigitChars 10 ['2'] 0, 0⟩) ['2'] :=
    .whole (List.forall_mem_singleton.mpr rfl) (List.cons_ne_nil _ _)
  have writtenLeft : Token.Written sentence.tokens (['2'] ++ (['y'] ++ (['*'] ++ ['y']))) :=
    .word two rfl <| .word (.symbol rfl) rfl <| .word .star trivial <|
      .single (.symbol rfl) trivial
  have writtenRight : Token.Written term.tokens ['x'] := .single (.symbol rfl) trivial
  exact parse_emptyBrackets (by decide : sentence.nesting ≤ nestingLimit)
    (by decide : term.nesting ≤ nestingLimit) rfl writtenLeft writtenRight

/-- With brackets around nothing in front of it, a minus is read as a plus. -/
theorem parse_emptyBrackets_minus :
    let x : Polynomial ℤ := ofTerm (.ofSymbols ["x"]) 1
    let y : Polynomial ℤ := ofTerm (.ofSymbols ["y"]) 1
    (parse "y + () - x" : Attempt (Polynomial ℤ)).result.map terms = .ok (y.add x).terms ∧
      (parse "y + - x" : Attempt (Polynomial ℤ)).result.map terms =
        .ok (y.subtract x).terms ∧
      (parse "y - x" : Attempt (Polynomial ℤ)).result.map terms = .ok (y.subtract x).terms ∧
      (parse "() - x" : Attempt (Polynomial ℤ)).result.map terms = .ok x.terms ∧
      (parse "- x" : Attempt (Polynomial ℤ)).result.map terms = .ok x.negate.terms ∧
      (y.add x).terms ≠ (y.subtract x).terms ∧ x.terms ≠ x.negate.terms := by
  decide +kernel

end Polynomial
end PolyMatrix
