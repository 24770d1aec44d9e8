import PolyMatrix.Proofs.Expression.Runs
import PolyMatrix.Proofs.Expression.Sources

/-!
# Scanning part by part

A character that belongs to no word ends the word in front of it and begins none behind, so
the texts on either side of it are scanned as if they stood alone.  The only fault is a run of
digits and points that is no numeral, and it is the first such run that is told of.
-/

namespace PolyMatrix
namespace Token

/-! ## Characters between words -/

/-- A character that belongs to no token: a blank, or neither a letter nor a digit, an
underscore, a point or an operator. -/
def IsOutside (character : Char) : Prop :=
  Text.isBlank character = true ∨
    (character.isAlphanum = false ∧ character ≠ '_' ∧ character ≠ '.' ∧
      ∀ token, (character, token) ∉ operators)

theorem IsOutside.not_start
    {character : Char}
    (outside : IsOutside character) :
    Decimal.isLiteralCharacter character = false ∧
      Text.isNameStart character = false := by
  rcases outside with blank | ⟨noAlphanum, noUnderscore, noPoint, -⟩
  · exact not_start_of_isBlank blank
  · rw [Char.isAlphanum, Bool.or_eq_false_iff] at noAlphanum
    simp [Decimal.isLiteralCharacter, Text.isNameStart, noAlphanum, noUnderscore, noPoint]

theorem IsOutside.ofCharacter?_eq_none
    {character : Char}
    (outside : IsOutside character) : ofCharacter? character = none := by
  rcases outside with blank | ⟨-, -, -, noOperator⟩
  · exact Token.ofCharacter?_eq_none (.inr (.inr blank))
  · refine Option.eq_none_iff_forall_ne_some.mpr fun token found => ?_
    exact noOperator token (mem_operators_iff.mpr found)

/-! ## Texts on either side of a character -/

variable {source : String}

/-- What belongs to no token is passed over. -/
theorem result_scanFrom_cons
    {character : Char}
    (noToken : ofCharacter? character = none)
    (noLiteral : Decimal.isLiteralCharacter character = false)
    (noName : Text.isNameStart character = false)
    (rest : List Char) :
    (scanFrom source .absent (character :: rest)).result =
      (scanFrom source .absent rest).result := by
  have passed : (Word.start source character).value = .absent := by
    simp only [Word.start, noLiteral, noName, Bool.false_eq_true, if_false]
    split
    · rfl
    · rfl
  simp only [scanFrom, extend?_absent, finish_absent, noToken, pure_bind, List.nil_append,
    bind_pure]
  rw [Attempt.result_bind, Attempt.result_ofNoted, passed]
  rfl

/-- The tokens of two texts with something between them that is scanned apart from both. -/
theorem result_scan_between
    {stop : Char}
    (stops : ∀ word : Word, word.extend? stop = none)
    (front rest : String)
    (tokens : List Token) :
    (scan (front ++ String.singleton stop ++ rest)).result = .ok tokens ↔
      ∃ first later, (scan front).result = .ok first ∧
        (scanFrom rest .absent (stop :: rest.toList)).result = .ok later ∧
          tokens = first ++ later := by
  have whole : (front ++ String.singleton stop ++ rest).toList =
      front.toList ++ stop :: rest.toList := by
    simp
  rw [scan, whole, scanFrom_append_stop stops, scan]
  simp only [Attempt.result_bind_eq_ok_iff, Attempt.result_pure, Except.ok.injEq]
  constructor
  · rintro ⟨first, scansFront, later, scansRest, rfl⟩
    exact ⟨first, later, (result_scanFrom_eq_ok_iff _ front).mp scansFront,
      (result_scanFrom_eq_ok_iff _ rest).mp scansRest, rfl⟩
  · rintro ⟨first, later, scansFront, scansRest, rfl⟩
    exact ⟨first, (result_scanFrom_eq_ok_iff front _).mp scansFront, later,
      (result_scanFrom_eq_ok_iff rest _).mp scansRest, rfl⟩

/-- A text with a character in between that belongs to no token has the tokens of both
sides. -/
theorem result_scan_outside
    {character : Char}
    (outside : IsOutside character)
    (front rest : String)
    (tokens : List Token) :
    (scan (front ++ String.singleton character ++ rest)).result = .ok tokens ↔
      ∃ first later, (scan front).result = .ok first ∧ (scan rest).result = .ok later ∧
        tokens = first ++ later := by
  obtain ⟨noLiteral, noName⟩ := outside.not_start
  rw [result_scan_between (extend?_eq_none noLiteral noName)]
  simp only [result_scanFrom_cons outside.ofCharacter?_eq_none noLiteral noName, scan]

/-- A text with an operator in between has the tokens of both sides and that of the operator
between them. -/
theorem result_scan_operator
    {character : Char} {token : Token}
    (operator : (character, token) ∈ operators)
    (front rest : String)
    (tokens : List Token) :
    (scan (front ++ String.singleton character ++ rest)).result = .ok tokens ↔
      ∃ first later, (scan front).result = .ok first ∧ (scan rest).result = .ok later ∧
        tokens = first ++ token :: later := by
  obtain ⟨noLiteral, noName, -⟩ := not_start_of_mem_operators operator
  rw [result_scan_between (extend?_eq_none noLiteral noName)]
  simp only [scanFrom_token (mem_operators_iff.mp operator), Attempt.result_bind_eq_ok_iff,
    Attempt.result_pure, Except.ok.injEq, scan]
  constructor
  · rintro ⟨first, -, scansFront, ⟨later, scansRest, rfl⟩, rfl⟩
    exact ⟨first, later, scansFront, scansRest, rfl⟩
  · rintro ⟨first, later, scansFront, scansRest, rfl⟩
    exact ⟨first, _, scansFront, ⟨later, scansRest, rfl⟩, rfl⟩

/-! ## Faults -/

/-- The fault of a text is that of its first run that is no numeral. -/
theorem result_scanFrom_eq_error_iff {text : List Char} {fault : Fault} :
    (scanFrom source .absent text).result = .error fault ↔
      ∃ run, (looseRuns text).find? (fun run => ¬IsNumeral run) = some run ∧
        fault = .notNumber (String.ofList run) source := by
  induction text using induction_on_words with
  | nil => simp
  | name name rest isName ends inductionHypothesis =>
      rw [scanFrom_symbol isName ends, Attempt.result_bind_pure_eq_error_iff,
        looseRuns_name isName ends]
      exact inductionHypothesis
  | run run rest nonempty isLiteral ends inductionHypothesis =>
      rw [scanFrom_literal nonempty isLiteral ends, looseRuns_run nonempty isLiteral ends,
        Word.finish, List.reverse_reverse]
      cases read : Decimal.ofLiteral? run with
      | some value =>
          have numeral : IsNumeral run := by
            by_contra unread
            cases read.symm.trans ((ofLiteral?_eq_none_iff isLiteral).mpr unread)
          rw [List.find?_cons_of_neg (by simpa using numeral)]
          simp only [pure_bind]
          rw [Attempt.result_bind_pure_eq_error_iff]
          exact inductionHypothesis
      | none =>
          have unread := (ofLiteral?_eq_none_iff isLiteral).mp read
          rw [List.find?_cons_of_pos (by simpa using unread), Attempt.result_bind,
            Attempt.result_fail]
          constructor
          · rintro ⟨⟩
            exact ⟨run, rfl, rfl⟩
          · rintro ⟨first, ⟨⟩, rfl⟩
            rfl
  | other character rest noName noLiteral inductionHypothesis =>
      rw [looseRuns_cons noName noLiteral]
      cases found : ofCharacter? character with
      | some token =>
          rw [scanFrom_token found, Attempt.result_bind_pure_eq_error_iff]
          exact inductionHypothesis
      | none =>
          rw [result_scanFrom_cons found noLiteral noName]
          exact inductionHypothesis

/-- A text has a fault if some run outside of its names has no digit or more than one
point. -/
theorem exists_error_iff {text : List Char} :
    (∃ fault, (scanFrom source .absent text).result = .error fault) ↔
      ∃ gap ∈ gaps text, ∃ run, IsRun gap run ∧
        ((∀ character ∈ run, character.isDigit = false) ∨ 1 < run.count '.') := by
  calc
    (∃ fault, (scanFrom source .absent text).result = .error fault) ↔
        ∃ run, (looseRuns text).find? (fun run => ¬IsNumeral run) = some run := by
      simp only [result_scanFrom_eq_error_iff]
      constructor
      · rintro ⟨fault, run, isFirst, -⟩
        exact ⟨run, isFirst⟩
      · rintro ⟨run, isFirst⟩
        exact ⟨_, run, isFirst, rfl⟩
    _ ↔ ∃ run ∈ looseRuns text, ¬IsNumeral run := by
      rw [← Option.isSome_iff_exists, List.find?_isSome]
      simp only [decide_eq_true_eq]
    _ ↔ ∃ gap ∈ gaps text, ∃ run, IsRun gap run ∧
        ((∀ character ∈ run, character.isDigit = false) ∨ 1 < run.count '.') := by
      simp only [looseRuns, List.mem_flatMap, mem_runs_iff, not_isNumeral_iff]
      constructor
      · rintro ⟨run, ⟨gap, isGap, isRun⟩, bad⟩
        exact ⟨gap, isGap, run, isRun, bad⟩
      · rintro ⟨gap, isGap, run, isRun, bad⟩
        exact ⟨run, ⟨gap, isGap, isRun⟩, bad⟩

/-! ## Laws -/

/-- How the tokens of a text follow from those of its parts, and which texts have none. -/
structure ScanningLaws : Prop where
  /-- On either side of a character that belongs to no token the tokens are those of the text
  there alone. -/
  outside : ∀ front rest character, IsOutside character → ∀ tokens,
    (scan (front ++ String.singleton character ++ rest)).result = .ok tokens ↔
      ∃ first later, (scan front).result = .ok first ∧ (scan rest).result = .ok later ∧
        tokens = first ++ later
  /-- So they are on either side of an operator, which is a token of its own. -/
  operator : ∀ front rest character token, (character, token) ∈ operators → ∀ tokens,
    (scan (front ++ String.singleton character ++ rest)).result = .ok tokens ↔
      ∃ first later, (scan front).result = .ok first ∧ (scan rest).result = .ok later ∧
        tokens = first ++ token :: later
  /-- A text has no tokens exactly if some run outside of its names has no digit or more than
  one point. -/
  fails : ∀ source, (∃ fault, (scan source).result = .error fault) ↔
    ∃ gap ∈ gaps source.toList, ∃ run, IsRun gap run ∧
      ((∀ character ∈ run, character.isDigit = false) ∨ 1 < run.count '.')
  /-- The fault is that of a written number, and quotes the first such run. -/
  fault : ∀ source fault, (scan source).result = .error fault ↔
    ∃ run, (looseRuns source.toList).find? (fun run => ¬IsNumeral run) = some run ∧
      fault = .notNumber (String.ofList run) source
  kind : ∀ source fault, (scan source).result = .error fault → fault.kind = .number

/-- Texts are scanned part by part, and fail at the runs that are no numerals. -/
theorem scanningLaws : ScanningLaws where
  outside front rest _ outside := result_scan_outside outside front rest
  operator front rest _ _ operator := result_scan_operator operator front rest
  fails _ := exists_error_iff
  fault _ _ := result_scanFrom_eq_error_iff
  kind _ fault fails := by
    obtain ⟨run, -, rfl⟩ := result_scanFrom_eq_error_iff.mp fails
    rfl

/-- A name and a number, which would be another name and another number without the character
between them; and two points behind a name with a digit. -/
theorem scanningLaws_points :
    IsOutside '\u00e9' ∧ ('\u2212', minus) ∈ operators ∧
      (scan ("2.5a1" ++ String.singleton '\u00e9' ++ "1.5")).result =
        .ok ([number ⟨25, 1⟩, symbol "a1"] ++ [number ⟨15, 1⟩]) ∧
      (scan ("2.5a1" ++ String.singleton '\u2212' ++ "1.5")).result =
        .ok ([number ⟨25, 1⟩, symbol "a1"] ++ minus :: [number ⟨15, 1⟩]) ∧
      (scan "2 a1.5.2 .").result = .error (.notNumber ".5.2" "2 a1.5.2 .") ∧
      ∃ run, (looseRuns "2 a1.5.2 .".toList).find? (fun run => ¬IsNumeral run) = some run ∧
        Fault.notNumber ".5.2" "2 a1.5.2 ." = .notNumber (String.ofList run) "2 a1.5.2 ." := by
  have outside : IsOutside '\u00e9' :=
    .inr ⟨by decide, by decide, by decide, by simp [operators]⟩
  have operator : ('\u2212', minus) ∈ operators := by decide
  refine ⟨outside, operator, ?_, ?_, rfl, ?_⟩
  · exact (scanningLaws.outside _ _ _ outside _).mpr ⟨_, _, rfl, rfl, rfl⟩
  · exact (scanningLaws.operator _ _ _ _ operator _).mpr ⟨_, _, rfl, rfl, rfl⟩
  · exact (scanningLaws.fault _ _).mp rfl

end Token
end PolyMatrix
