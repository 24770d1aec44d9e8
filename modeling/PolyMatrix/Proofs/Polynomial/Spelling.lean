import PolyMatrix.Polynomial.Text
import PolyMatrix.Proofs.Decimal.Printing
import PolyMatrix.Proofs.Expression.Reading
import PolyMatrix.Proofs.Monomial.RoundTrip

/-!
# The written form of a polynomial is a sentence

A polynomial is written as a sum of its summands, each a number in front of symbols
that are joined by stars.  This is a sentence of the grammar without brackets, and
its text keeps the tokens apart, provided that the symbols have names and the
coefficients are numbers.
-/

namespace PolyMatrix

open Grammar
open Token (Apart Detached Spells Written)

namespace Polynomial

variable {K : Type} [Coefficient K]

/-- The number in front of a summand. -/
def printed (k : K) : Decimal :=
  match Coefficient.magnitude k with
  | .thousandths count => Magnitude.decimal count
  | .infinite | .undefined => ⟨0, 0⟩

/-- The summands that are written with names and a number. -/
structure Plain (term : Monomial × K) : Prop where
  names : ∀ symbol ∈ term.1.symbols, Text.isName symbol.toList = true
  finite : ∃ count, Coefficient.magnitude term.2 = .thousandths count

/-! ## Trees -/

/-- A number in front of a symbol; a one is left out. -/
def firstFactor (value : Decimal) (symbol : String) : Primary :=
  if value = ⟨1, 0⟩ then .symbol symbol else .multiple value symbol

/-- A term with more symbols behind it. -/
def withFactors (symbols : List String) (left : Term) : Term :=
  symbols.foldl (fun left symbol => .next left (.star []) (.symbol symbol)) left

/-- The tree of a summand without its sign. -/
def summand (term : Monomial × K) : Term :=
  match term.1.symbols with
  | [] => .first [] (.number (printed term.2))
  | symbol :: rest => withFactors rest (.first [] (firstFactor (printed term.2) symbol))

/-- A sentence with more summands behind it. -/
def withSummands (terms : List (Monomial × K)) (left : Sentence) : Sentence :=
  terms.foldl
    (fun left term => .next left (Coefficient.isNegative term.2) [] (summand term)) left

/-- The signs in front of the leading summand. -/
def leadingSigns (k : K) : List Bool :=
  if Coefficient.isNegative k then [true] else []

/-- The tree of a polynomial. -/
def sentence : List (Monomial × K) → Sentence
  | [] => .first [] (.first [] (.number ⟨0, 0⟩))
  | leading :: rest =>
      withSummands rest (.first (leadingSigns leading.2) (summand leading))

/-! Trees of polynomials have no brackets, and every symbol but the first one of a
summand stands behind a star, so nothing is left to be joined. -/

theorem withFactors_flat
    (symbols : List String)
    {left : Term}
    (flat : left.joined = left ∧ left.nesting = 0) :
    (withFactors symbols left).joined = withFactors symbols left ∧
      (withFactors symbols left).nesting = 0 := by
  induction symbols generalizing left with
  | nil => exact flat
  | cons symbol rest inductionHypothesis =>
      apply inductionHypothesis
      constructor
      · rw [Term.joined_next left (by rintro _ ⟨⟩), flat.1, Primary.joined]
        rintro _ ⟨⟩
      · rw [Term.nesting, flat.2, Primary.nesting, Nat.max_zero]
        rintro _ ⟨⟩

theorem summand_flat (term : Monomial × K) :
    (summand term).joined = summand term ∧ (summand term).nesting = 0 := by
  unfold summand
  split
  · exact ⟨rfl, rfl⟩
  · apply withFactors_flat
    unfold firstFactor
    split
    · exact ⟨rfl, rfl⟩
    · exact ⟨rfl, rfl⟩

theorem withSummands_flat
    (terms : List (Monomial × K))
    {left : Sentence}
    (flat : left.joined = left ∧ left.nesting = 0) :
    (withSummands terms left).joined = withSummands terms left ∧
      (withSummands terms left).nesting = 0 := by
  induction terms generalizing left with
  | nil => exact flat
  | cons term rest inductionHypothesis =>
      obtain ⟨joined, nesting⟩ := summand_flat term
      apply inductionHypothesis
      constructor
      · rw [Sentence.joined, flat.1, joined]
      · rw [Sentence.nesting, flat.2, nesting, Nat.max_zero]

theorem sentence_flat (terms : List (Monomial × K)) :
    (sentence terms).joined = sentence terms ∧ (sentence terms).nesting = 0 := by
  cases terms with
  | nil => exact ⟨rfl, rfl⟩
  | cons leading rest =>
      obtain ⟨joined, nesting⟩ := summand_flat leading
      apply withSummands_flat
      constructor
      · rw [Sentence.joined, joined]
      · rw [Sentence.nesting, nesting]

/-- The sign of a summand stands in front of its term and not in it. -/
theorem signs_summand (term : Monomial × K) : (summand term).signs = [] := by
  have kept : ∀ (symbols : List String) (left : Term), left.signs = [] →
      (withFactors symbols left).signs = [] := by
    intro symbols
    induction symbols with
    | nil => exact fun _ unsigned => unsigned
    | cons symbol rest inductionHypothesis =>
        exact fun _ unsigned => inductionHypothesis _ unsigned
  unfold summand
  split
  · rfl
  · exact kept _ _ rfl

/-! ## Texts -/

/-- A symbol begins none of the words that can stand in front of it. -/
theorem apart_name
    {name : List Char}
    (isName : Text.isName name = true)
    (value : Decimal)
    (rest : List Char) : Apart (.number value) (name ++ rest) := by
  cases name with
  | nil => exact absurd rfl (Text.ne_nil_of_isName isName)
  | cons first later =>
      rw [Text.isName, Bool.and_eq_true] at isName
      exact Token.isLiteralCharacter_of_isNameStart isName.1

theorem spells_printed
    {k : K}
    {count : Nat}
    (finite : Coefficient.magnitude k = .thousandths count) :
    Spells (.number (printed k)) (Coefficient.magnitude k).text.toList := by
  rw [printed, finite, Magnitude.text, String.toList_ofList]
  exact Magnitude.spells_characters count

/-- Symbols with stars between them are the first one and the others, each behind a
star. -/
theorem intercalate_star (symbol : String) (rest : List String) :
    ['*'].intercalate ((symbol :: rest).map String.toList) =
      symbol.toList ++ rest.flatMap fun other => '*' :: other.toList := by
  rw [List.map_cons, Text.intercalate_cons, List.flatMap_map]
  rfl

theorem written_withFactors
    {symbols : List String}
    (names : ∀ symbol ∈ symbols, Text.isName symbol.toList = true)
    {left : Term}
    {text : List Char}
    (written : Written left.tokens text) :
    Written (withFactors symbols left).tokens
      (text ++ symbols.flatMap fun symbol => '*' :: symbol.toList) := by
  induction symbols generalizing left text with
  | nil =>
      rw [List.flatMap_nil, List.append_nil]
      exact written
  | cons symbol rest inductionHypothesis =>
      rw [List.forall_mem_cons] at names
      have factor : Written [.star, .symbol symbol] ('*' :: symbol.toList) :=
        .character .star trivial (.single (.ofName names.1) trivial)
      rw [List.flatMap_cons, ← List.append_assoc]
      exact inductionHypothesis names.2 (written.append factor ⟨rfl, rfl⟩)

/-- The body of a summand is a text of its tree. -/
theorem written_summand
    {term : Monomial × K}
    (plain : Plain term) :
    Written (summand term).tokens (bodyText term.1 term.2).toList := by
  obtain ⟨names, count, finite⟩ := plain
  have spells := spells_printed finite
  have symbolsText : term.1.text.toList =
      ['*'].intercalate (term.1.symbols.map String.toList) := String.toList_intercalate
  unfold summand bodyText Monomial.isUnit
  cases split : term.1.symbols with
  | nil =>
      have noSymbols : term.1.text.toList = [] := by
        rw [symbolsText, split]
        rfl
      simp only [List.isEmpty_nil, Bool.not_true, Bool.false_and, Bool.false_eq_true,
        if_false, String.toList_append, noSymbols]
      rw [List.append_nil]
      exact .single spells trivial
  | cons symbol rest =>
      rw [split, intercalate_star] at symbolsText
      rw [split, List.forall_mem_cons] at names
      simp only [List.isEmpty_cons, Bool.not_false, Bool.true_and, beq_iff_eq]
      by_cases one : (Coefficient.magnitude term.2).text = "1"
      · have printsOne : printed term.2 = ⟨1, 0⟩ := by
          rw [finite, Magnitude.text, ← String.toList_inj, String.toList_ofList] at one
          rw [printed, finite]
          exact (Magnitude.characters_eq_one_iff count).mp one
        rw [if_pos one, symbolsText]
        refine written_withFactors names.2 ?_
        rw [firstFactor, if_pos printsOne]
        exact .single (.ofName names.1) trivial
      · have printsOther : printed term.2 ≠ ⟨1, 0⟩ := by
          intro printsOne
          rw [printed, finite] at printsOne
          apply one
          rw [finite, Magnitude.text, (Magnitude.characters_eq_one_iff count).mpr printsOne]
        rw [if_neg one, String.toList_append, symbolsText,
          ← List.append_assoc]
        refine written_withFactors names.2 ?_
        rw [firstFactor, if_neg printsOther]
        have written := Written.word spells (apart_name names.1 _ [])
          (.word (.ofName names.1) trivial .nil)
        rwa [List.append_nil] at written

/-- A summand behind another one, with the sign between them. -/
theorem written_termText
    {term : Monomial × K}
    (plain : Plain term) :
    Written (signTokens [Coefficient.isNegative term.2] ++ (summand term).tokens)
      (termText false term).toList := by
  have body := written_summand plain
  rw [termText, String.toList_append]
  cases Coefficient.isNegative term.2 with
  | false => exact .blank rfl (.character .plus trivial (.blank rfl body))
  | true => exact .blank rfl (.character .hyphen trivial (.blank rfl body))

theorem detached_termText (term : Monomial × K) (rest : List Char) :
    Detached ((termText false term).toList ++ rest) := by
  rw [termText, String.toList_append]
  cases Coefficient.isNegative term.2 with
  | false => exact ⟨rfl, rfl⟩
  | true => exact ⟨rfl, rfl⟩

theorem written_withSummands
    {terms : List (Monomial × K)}
    (plain : ∀ term ∈ terms, Plain term)
    {left : Sentence}
    {text : List Char}
    (written : Written left.tokens text) :
    Written (withSummands terms left).tokens
      (text ++ terms.flatMap fun term => (termText false term).toList) := by
  induction terms generalizing left text with
  | nil =>
      rw [List.flatMap_nil, List.append_nil]
      exact written
  | cons term rest inductionHypothesis =>
      rw [List.forall_mem_cons] at plain
      have detached := detached_termText term []
      rw [List.append_nil] at detached
      rw [List.flatMap_cons, ← List.append_assoc]
      exact inductionHypothesis plain.2
        (written.append (written_termText plain.1) detached)

/-- The written form of a polynomial is a text of its tree. -/
theorem written_text
    {p : Polynomial K}
    (plain : ∀ term ∈ p.terms, Plain term) :
    Written (sentence p.terms).tokens p.text.toList := by
  unfold Polynomial.text
  generalize p.terms = terms at plain
  cases terms with
  | nil =>
      have zero : Spells (.number ⟨Nat.ofDigitChars 10 ['0'] 0, 0⟩) ['0'] :=
        .whole (List.forall_mem_singleton.mpr rfl) (List.cons_ne_nil _ _)
      change Written [.number ⟨0, 0⟩] "0".toList
      exact .single zero trivial
  | cons leading rest =>
      rw [List.forall_mem_cons] at plain
      have body := written_summand plain.1
      rw [String.toList_append, String.toList_join, List.flatMap_map]
      refine written_withSummands plain.2 ?_
      rw [Sentence.tokens, termText, String.toList_append, leadingSigns]
      cases Coefficient.isNegative leading.2 with
      | false => exact body
      | true => exact .character .hyphen trivial body

/-! ## Characters -/

/-- The characters that polynomials are written with. -/
def isTextCharacter (character : Char) : Bool :=
  Text.isNameCharacter character || ['.', '*', '+', '-', ' '].contains character

theorem isTextCharacter_of_isLiteralCharacter
    {character : Char}
    (literal : Decimal.isLiteralCharacter character = true) :
    isTextCharacter character = true := by
  rw [Decimal.isLiteralCharacter, Bool.or_eq_true, beq_iff_eq] at literal
  rcases literal with digit | rfl
  · simp only [isTextCharacter, Text.isNameCharacter, Char.isAlphanum, digit, Bool.or_true,
      Bool.true_or]
  · decide

theorem characters_bodyText
    {term : Monomial × K}
    (plain : Plain term) :
    ∀ character ∈ (bodyText term.1 term.2).toList, isTextCharacter character = true := by
  obtain ⟨names, count, finite⟩ := plain
  have symbols : ∀ character ∈ term.1.text.toList, isTextCharacter character = true := by
    intro character member
    rcases Monomial.characters_text names character member with name | rfl
    · rw [isTextCharacter, name, Bool.true_or]
    · decide
  have value : ∀ character ∈ (Coefficient.magnitude term.2).text.toList,
      isTextCharacter character = true :=
    fun character member => isTextCharacter_of_isLiteralCharacter
      ((spells_printed finite).literal_characters character member)
  unfold bodyText
  dsimp only
  split
  · exact symbols
  · rw [String.toList_append, List.forall_mem_append]
    exact ⟨value, symbols⟩

theorem characters_termText
    {term : Monomial × K}
    (plain : Plain term)
    (isFirst : Bool) :
    ∀ character ∈ (termText isFirst term).toList, isTextCharacter character = true := by
  have sign (isNegative : Bool) :
      (signText isFirst isNegative).toList.all isTextCharacter = true := by
    cases isFirst <;> cases isNegative <;> rfl
  rw [termText, String.toList_append, List.forall_mem_append]
  exact ⟨List.all_eq_true.mp (sign _), characters_bodyText plain⟩

/-- A polynomial is written in names, numbers, stars, signs and spaces. -/
theorem characters_text
    {p : Polynomial K}
    (plain : ∀ term ∈ p.terms, Plain term) :
    ∀ character ∈ p.text.toList, isTextCharacter character = true := by
  unfold Polynomial.text
  generalize p.terms = terms at plain
  cases terms with
  | nil =>
      have digit : "0".toList.all isTextCharacter = true := by decide
      exact List.all_eq_true.mp digit
  | cons leading rest =>
      rw [List.forall_mem_cons] at plain
      rw [String.toList_append, String.toList_join, List.flatMap_map, List.forall_mem_append]
      refine ⟨characters_termText plain.1 true, fun character member => ?_⟩
      obtain ⟨term, isTerm, inside⟩ := List.mem_flatMap.mp member
      exact characters_termText (plain.2 term isTerm) false character inside

end Polynomial
end PolyMatrix
