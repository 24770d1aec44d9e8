import Mathlib.Algebra.Order.Field.Basic
import Mathlib.Tactic.Linarith
import PolyMatrix.Proofs.Monomial.Exponents
import PolyMatrix.Proofs.Polynomial.Spelling
import PolyMatrix.Proofs.Polynomial.Unital

/-!
# Reading a polynomial from its written form

Where the coefficients are read from what they are printed as, the polynomial of a
written form is the polynomial that was written: every summand is read as a product
of single summands, and the summands come in monomial order, so that each is put at
the end.  Rational multiples of an eighth are such coefficients.
-/

namespace PolyMatrix

open Grammar

/-- The digits zero and one are read as such. -/
class Coefficient.ReadsDigits (K : Type) [Mul K] [Coefficient K] : Prop
    extends Coefficient.Unital K where
  negligible_zero : Coefficient.isNegligible (Coefficient.ofDecimal ⟨0, 0⟩ : K) = true
  ofDecimal_one : Coefficient.ofDecimal ⟨1, 0⟩ = (Coefficient.one : K)

instance : Coefficient.ReadsDigits ℚ where
  negligible_zero := by decide +kernel
  ofDecimal_one := by decide +kernel

namespace Polynomial

/-- A coefficient is read from what it is printed as. -/
structure Legible {K : Type} [Neg K] [Mul K] [Coefficient K] (k : K) : Prop where
  finite : ∃ count, Coefficient.magnitude k = .thousandths count
  significant : Coefficient.isNegligible (Coefficient.ofDecimal (printed k) : K) = false
  signed : Coefficient.ofDecimal (printed k) *
    Coefficient.sign (Coefficient.isNegative k) = k

variable {K : Type} [Add K] [Neg K] [Mul K] [Coefficient K]

/-! ## Products of symbols -/

theorem exponents_foldl_insert (symbols : List String) (start : Monomial) :
    (symbols.foldl Monomial.insert start).exponents =
      start.exponents + Multiset.toFinsupp (symbols : Multiset String) := by
  induction symbols generalizing start with
  | nil => rw [List.foldl_nil, Multiset.coe_nil, Multiset.toFinsupp_zero, add_zero]
  | cons symbol rest inductionHypothesis =>
      rw [List.foldl_cons, inductionHypothesis, Monomial.exponents_insert,
        Monomial.toFinsupp_cons, add_assoc, add_comm (Finsupp.single symbol 1)]

/-- A monomial is the product of its symbols in order. -/
theorem foldl_insert_symbols
    {monomial : Monomial}
    {symbol : String}
    {rest : List String}
    (split : monomial.symbols = symbol :: rest) :
    rest.foldl Monomial.insert (.ofSymbols [symbol]) = monomial := by
  apply Monomial.exponents_injective
  rw [exponents_foldl_insert, Monomial.exponents_ofSymbols, ← Multiset.toFinsupp_add,
    Multiset.coe_add, List.singleton_append, Monomial.exponents, split]

/-! ## Summands -/

section Summands

variable [Coefficient.ReadsDigits K]

theorem toPolynomial_withFactors
    (symbols : List String)
    {left : Term}
    {monomial : Monomial}
    {k : K}
    (significant : Coefficient.isNegligible k = false)
    (read : left.expression.toPolynomial = ofTerm monomial k) :
    (withFactors symbols left).expression.toPolynomial =
      ofTerm (symbols.foldl Monomial.insert monomial) k := by
  induction symbols generalizing left monomial with
  | nil => exact read
  | cons symbol rest inductionHypothesis =>
      apply inductionHypothesis
      change left.expression.toPolynomial.multiply
        ((ofTerm (.ofSymbols [symbol]) Coefficient.one).scale Coefficient.one) = _
      rw [read, ofTerm_scale_one, ofTerm_multiply_ofTerm _ _ significant
        Coefficient.Unital.significant_one, Coefficient.Unital.mul_one]
      rfl

theorem toPolynomial_firstFactor (value : Decimal) (symbol : String) :
    ((firstFactor value symbol).expression.toPolynomial : Polynomial K) =
      ofTerm (.ofSymbols [symbol]) (Coefficient.ofDecimal value) := by
  unfold firstFactor
  split
  · rename_i one
    rw [one, Coefficient.ReadsDigits.ofDecimal_one]
    rfl
  · rfl

/-- A summand is read as its monomial, with the number in front of it. -/
theorem toPolynomial_summand
    {term : Monomial × K}
    (significant :
      Coefficient.isNegligible (Coefficient.ofDecimal (printed term.2) : K) = false) :
    (summand term).expression.toPolynomial =
      ofTerm term.1 (Coefficient.ofDecimal (printed term.2) : K) := by
  unfold summand
  cases split : term.1.symbols with
  | nil =>
      have unit : term.1 = .unit := Monomial.ext split
      rw [unit]
      exact ofTerm_scale_one .unit _
  | cons symbol rest =>
      rw [← foldl_insert_symbols split]
      refine toPolynomial_withFactors rest significant ?_
      change ((firstFactor _ symbol).expression.toPolynomial).scale Coefficient.one = _
      rw [toPolynomial_firstFactor, ofTerm_scale_one]

/-! ## Sums -/

/-- A sum is extended by a summand as it was before it was written. -/
theorem toPolynomial_sum_summand
    (left : Expression)
    {term : Monomial × K}
    (legible : Legible term.2) :
    (Expression.sum left (Coefficient.isNegative term.2)
        (summand term).expression).toPolynomial =
      (left.toPolynomial : Polynomial K).accumulate term.1 term.2 := by
  rw [Expression.toPolynomial, toPolynomial_summand legible.significant,
    accumulateScaled_ofTerm _ _ _ legible.significant, legible.signed]

theorem toPolynomial_withSummands
    {terms : List (Monomial × K)}
    (legible : ∀ term ∈ terms, Legible term.2)
    (left : Sentence) :
    (withSummands terms left).expression.toPolynomial =
      terms.foldl (fun sum term => sum.accumulate term.1 term.2)
        left.expression.toPolynomial := by
  induction terms generalizing left with
  | nil => rfl
  | cons term rest inductionHypothesis =>
      rw [List.forall_mem_cons] at legible
      rw [List.foldl_cons, ← toPolynomial_sum_summand _ legible.1]
      refine (inductionHypothesis legible.2 _).trans ?_
      rw [Sentence.expression, signs_summand]
      rfl

/-- The sentence of a polynomial is read as the sum of the written summands. -/
theorem toPolynomial_sentence
    {terms : List (Monomial × K)}
    (legible : ∀ term ∈ terms, Legible term.2) :
    (sentence terms).expression.toPolynomial = ofTerms terms := by
  cases terms with
  | nil =>
      have constant : (Polynomial.constant (Coefficient.ofDecimal ⟨0, 0⟩) :
          Polynomial K) = .zero := by
        rw [Polynomial.constant, ofTerm, accumulate,
          Coefficient.ReadsDigits.negligible_zero, if_pos rfl]
      change Polynomial.accumulateScaled .zero
        ((Polynomial.constant (Coefficient.ofDecimal ⟨0, 0⟩)).scale Coefficient.one)
        Coefficient.one = _
      rw [constant, scale, multiplyTerm_zero]
      rfl
  | cons leading rest =>
      rw [List.forall_mem_cons] at legible
      have first : (Sentence.first (leadingSigns leading.2)
          (summand leading)).expression =
          .sum .zero (Coefficient.isNegative leading.2) (summand leading).expression := by
        rw [Sentence.expression, signs_summand, leadingSigns]
        cases Coefficient.isNegative leading.2 with
        | false => rfl
        | true => rfl
      rw [sentence, toPolynomial_withSummands legible.2, first,
        toPolynomial_sum_summand _ legible.1]
      rfl

/-- A canonical polynomial with legible coefficients is read from a text of its tree,
and nothing is left out. -/
theorem parse_of_written
    {p : Polynomial K}
    (canonical : p.Canonical)
    (legible : ∀ term ∈ p.terms, Legible term.2)
    {source : String}
    (written : Token.Written (sentence p.terms).tokens source.toList) :
    (parse source : Attempt (Polynomial K)) = pure p.withoutNote := by
  obtain ⟨joined, nesting⟩ := sentence_flat p.terms
  have shallow : (sentence p.terms).nesting ≤ Expression.nestingLimit := by
    rw [nesting]
    exact Nat.zero_le _
  have read : (Expression.sum .zero false (sentence p.terms).expression).toPolynomial =
      p.withoutNote := by
    rw [Expression.toPolynomial, toPolynomial_sentence legible,
      canonical.ofTerms_terms]
    exact canonical.withoutNote.accumulateScaled_one
  rw [parse, Expression.parse, Token.scan, written.scanFrom_eq, pure_bind,
    (sentence p.terms).expression_ofTokens source shallow, pure_bind, joined, read]

end Summands

/-! ## Eighths -/

/-- Rational multiples of an eighth are printed exactly. -/
theorem magnitude_eighth (count : ℤ) :
    Coefficient.magnitude (count / 8 : ℚ) = .thousandths (count.natAbs * 125) := by
  have scaled : (count / 8 : ℚ).num * 8 = count * (count / 8 : ℚ).den := by
    have quotient := Rat.num_div_den (count / 8 : ℚ)
    have positive : ((count / 8 : ℚ).den : ℚ) ≠ 0 := by
      exact_mod_cast (count / 8 : ℚ).den_nz
    rw [div_eq_div_iff positive (by norm_num)] at quotient
    exact_mod_cast quotient
  have natural := congrArg Int.natAbs scaled
  rw [Int.natAbs_mul, Int.natAbs_mul, Int.natAbs_natCast] at natural
  have thousandths : (count / 8 : ℚ).num.natAbs * 1000 =
      count.natAbs * 125 * (count / 8 : ℚ).den := by
    change _ * 8 = _ at natural
    linarith
  change Magnitude.thousandths (roundHalfEven _ _) = _
  rw [thousandths, roundHalfEven_mul _ _ (count / 8 : ℚ).den_pos]

theorem ofDecimal_rat (decimal : Decimal) :
    (Coefficient.ofDecimal decimal : ℚ) = decimal.toRat :=
  (Rat.mkRat_eq_div _ _).trans rfl

theorem isNegligible_abs (value : ℚ) :
    Coefficient.isNegligible |value| = Coefficient.isNegligible value := by
  rcases abs_choice value with same | negated
  · rw [same]
  · rw [negated]
    change (decide (-_ < -value) && decide (-value < _)) = (decide _ && decide _)
    simp only [neg_lt_neg_iff, neg_lt (a := value), Bool.and_comm]

/-- A multiple of an eighth is printed as its absolute value. -/
theorem ofDecimal_printed_eighth (count : ℤ) :
    (Coefficient.ofDecimal (printed (count / 8 : ℚ)) : ℚ) = |(count / 8 : ℚ)| := by
  rw [ofDecimal_rat, printed, magnitude_eighth, Magnitude.toRat_decimal, abs_div,
    abs_of_pos (by norm_num : (0 : ℚ) < 8), Nat.cast_mul, Nat.cast_natAbs, Int.cast_abs]
  norm_num
  ring

/-- A multiple of an eighth that is worth keeping is legible. -/
theorem legible_eighth
    {count : ℤ}
    (significant : Coefficient.isNegligible (count / 8 : ℚ) = false) :
    Legible (count / 8 : ℚ) where
  finite := ⟨_, magnitude_eighth count⟩
  significant := by rw [ofDecimal_printed_eighth, isNegligible_abs, significant]
  signed := by
    rw [ofDecimal_printed_eighth]
    change _ * Coefficient.sign (decide _) = _
    by_cases negative : (count / 8 : ℚ) < 0
    · rw [decide_eq_true negative, Coefficient.sign_true, abs_of_neg negative]
      change _ * (-1) = _
      ring
    · rw [decide_eq_false negative, Coefficient.sign_false,
        abs_of_nonneg (not_lt.mp negative)]
      exact Coefficient.Unital.mul_one _

/-- The polynomials that are written exactly: canonical, with named symbols and
multiples of an eighth in front of them. -/
structure InEighths (p : Polynomial ℚ) : Prop where
  canonical : p.Canonical
  names : ∀ term ∈ p.terms, ∀ symbol ∈ term.1.symbols,
    Text.isName symbol.toList = true
  eighths : ∀ term ∈ p.terms, ∃ count : ℤ, term.2 = count / 8

/-- The polynomial without summands is one of them. -/
theorem InEighths.zero : (Polynomial.zero : Polynomial ℚ).InEighths where
  canonical := .zero
  names := List.forall_mem_nil _
  eighths := List.forall_mem_nil _

/-- A multiple of an eighth is whole after multiplication with eight. -/
theorem exists_eq_eighths_iff {value : ℚ} :
    (∃ count : ℤ, value = count / 8) ↔ (value * 8).den = 1 := by
  rw [Rat.den_eq_one_iff]
  constructor
  · rintro ⟨count, rfl⟩
    rw [div_mul_cancel₀ (count : ℚ) (by norm_num), Rat.num_intCast]
  · intro whole
    exact ⟨(value * 8).num, by rw [whole, mul_div_cancel_right₀ value (by norm_num)]⟩

theorem inEighths_iff {p : Polynomial ℚ} :
    p.InEighths ↔
      (p.terms.Pairwise fun earlier later => earlier.1.precedes later.1 = true) ∧
        ∀ term ∈ p.terms, Coefficient.isNegligible term.2 = false ∧
          (∀ symbol ∈ term.1.symbols, Text.isName symbol.toList = true) ∧
          (term.2 * 8).den = 1 := by
  constructor
  · rintro ⟨⟨descending, significant⟩, names, eighths⟩
    exact ⟨descending, fun term member => ⟨significant term member, names term member,
      exists_eq_eighths_iff.mp (eighths term member)⟩⟩
  · rintro ⟨descending, each⟩
    exact ⟨⟨descending, fun term member => (each term member).1⟩,
      fun term member => (each term member).2.1,
      fun term member => exists_eq_eighths_iff.mpr (each term member).2.2⟩

instance : DecidablePred InEighths :=
  fun _ => decidable_of_iff' _ inEighths_iff

theorem InEighths.legible
    {p : Polynomial ℚ}
    (inEighths : p.InEighths) : ∀ term ∈ p.terms, Legible term.2 := by
  intro term member
  obtain ⟨count, eighth⟩ := inEighths.eighths term member
  have significant := inEighths.canonical.significant term member
  rw [eighth] at significant ⊢
  exact legible_eighth significant

theorem InEighths.plain
    {p : Polynomial ℚ}
    (inEighths : p.InEighths) : ∀ term ∈ p.terms, Plain term :=
  fun term member => ⟨inEighths.names term member, (inEighths.legible term member).finite⟩

theorem InEighths.written_text
    {p : Polynomial ℚ}
    (inEighths : p.InEighths) : Token.Written (sentence p.terms).tokens p.text.toList :=
  Polynomial.written_text inEighths.plain

/-- A polynomial with named symbols and multiples of an eighth is read from its
written form without notices, monomial by monomial and coefficient by coefficient
as it was written. -/
theorem parse_text {p : Polynomial ℚ} (inEighths : p.InEighths) :
    (parse p.text : Attempt (Polynomial ℚ)).result = .ok p.withoutNote ∧
      (parse p.text : Attempt (Polynomial ℚ)).notices = [] := by
  rw [parse_of_written inEighths.canonical inEighths.legible inEighths.written_text]
  exact ⟨rfl, rfl⟩

/-- A leading minus, a one that is left out, one that is not, and a fraction. -/
theorem parse_text_signs :
    let p : Polynomial ℚ := .ofTerms
      [(.unit, 1), (.ofSymbols ["y", "x"], -1), (.ofSymbols ["x"], 5 / 2)]
    p.text = "-x*y + 2.5x + 1" ∧
      (parse "-x*y + 2.5x + 1" : Attempt (Polynomial ℚ)).result = .ok p ∧
      (parse "-x*y + 2.5x + 1" : Attempt (Polynomial ℚ)).notices = [] := by
  intro p
  have text : p.text = "-x*y + 2.5x + 1" := by decide +kernel
  have terms : p.terms =
      [(.ofSymbols ["x", "y"], -1), (.ofSymbols ["x"], 5 / 2), (.unit, 1)] := by
    decide +kernel
  have inEighths : p.InEighths := by
    refine ⟨canonical_ofTerms _, ?_, ?_⟩
    · rw [terms]
      decide +kernel
    · rw [terms]
      rw [List.forall_mem_cons, List.forall_mem_cons, List.forall_mem_singleton]
      exact ⟨⟨-8, by norm_num⟩, ⟨20, by norm_num⟩, ⟨8, by norm_num⟩⟩
  have unmarked : p.withoutNote = p :=
    eq_of_terms_eq rfl (note_foldl_accumulate Prod.fst Prod.snd _ zero).symm
  have read := parse_text inEighths
  rw [text, unmarked] at read
  exact ⟨text, read⟩

end Polynomial
end PolyMatrix
