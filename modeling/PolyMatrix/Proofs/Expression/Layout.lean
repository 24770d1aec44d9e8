import PolyMatrix.Expression.Token
import PolyMatrix.Proofs.Text.Cutting

/-!
# Texts of tokens

A list of tokens is written by spelling them one after another, with any blanks
between them.  A number must not run into further digits or points, nor a symbol
into further characters of a name; apart from that the blanks can be left out.
However tokens are written, scanning the text gives them back.
-/

namespace PolyMatrix
namespace Token

/-- The texts that a token is written as.  A minus has two of them. -/
inductive Spells : Token → List Char → Prop
  | whole {digits : List Char}
      (allDigits : ∀ digit ∈ digits, digit.isDigit = true)
      (nonempty : digits ≠ []) :
      Spells (.number ⟨Nat.ofDigitChars 10 digits 0, 0⟩) digits
  | point {digits fraction : List Char}
      (allDigits : ∀ digit ∈ digits ++ fraction, digit.isDigit = true)
      (nonempty : digits ++ fraction ≠ []) :
      Spells (.number ⟨Nat.ofDigitChars 10 (digits ++ fraction) 0, fraction.length⟩)
        (digits ++ '.' :: fraction)
  | symbol {name : List Char} (isName : Text.isName name = true) :
      Spells (.symbol (String.ofList name)) name
  | plus : Spells .plus ['+']
  | hyphen : Spells .minus ['-']
  | minus : Spells .minus ['\u2212']
  | star : Spells .star ['*']
  | opening : Spells .opening ['(']
  | closing : Spells .closing [')']

/-- The text does not go on with the word of the token in front of it. -/
def Apart : Token → List Char → Prop
  | .number _, next :: _ => Decimal.isLiteralCharacter next = false
  | .symbol _, next :: _ => Text.isNameCharacter next = false
  | _, _ => True

theorem Apart.number
    {value : Decimal} {text : List Char}
    (apart : Apart (.number value) text) :
    ∀ next ∈ text.head?, Decimal.isLiteralCharacter next = false := by
  intro next head
  cases text with
  | nil => cases head
  | cons first rest =>
      cases head
      exact apart

theorem Apart.symbol
    {name : String} {text : List Char}
    (apart : Apart (.symbol name) text) :
    ∀ next ∈ text.head?, Text.isNameCharacter next = false := by
  intro next head
  cases text with
  | nil => cases head
  | cons first rest =>
      cases head
      exact apart

/-- The texts that a list of tokens is written as. -/
inductive Written : List Token → List Char → Prop
  | nil : Written [] []
  | blank {tokens : List Token} {blank : Char} {text : List Char}
      (isBlank : Text.isBlank blank = true)
      (written : Written tokens text) :
      Written tokens (blank :: text)
  | word {token : Token} {tokens : List Token} {word text : List Char}
      (spells : token.Spells word)
      (apart : token.Apart text)
      (written : Written tokens text) :
      Written (token :: tokens) (word ++ text)

/-- A word of one character is written in front of a text. -/
theorem Written.character
    {token : Token} {tokens : List Token} {character : Char} {text : List Char}
    (spells : token.Spells [character])
    (apart : token.Apart text)
    (written : Written tokens text) : Written (token :: tokens) (character :: text) :=
  .word spells apart written

/-- A single token is written as its word. -/
theorem Written.single
    {token : Token} {word : List Char}
    (spells : token.Spells word)
    (apart : token.Apart []) : Written [token] word := by
  have written := Written.word spells apart .nil
  rwa [List.append_nil] at written

/-- The text goes on with no word at all. -/
def Detached : List Char → Prop
  | [] => True
  | next :: _ =>
      Decimal.isLiteralCharacter next = false ∧ Text.isNameCharacter next = false

/-- What belongs to no word can follow any token. -/
theorem Apart.append
    {token : Token} {text rest : List Char}
    (apart : Apart token text)
    (detached : Detached rest) : Apart token (text ++ rest) := by
  cases text with
  | cons next later => cases token <;> exact apart
  | nil =>
      cases rest with
      | nil => exact apart
      | cons next later =>
          cases token with
          | number value => exact detached.1
          | symbol name => exact detached.2
          | plus | minus | star | opening | closing => trivial

/-- Written tokens can be put one behind the other where no word runs on. -/
theorem Written.append
    {tokens others : List Token} {text rest : List Char}
    (written : Written tokens text)
    (later : Written others rest)
    (detached : Detached rest) :
    Written (tokens ++ others) (text ++ rest) := by
  induction written with
  | nil => exact later
  | blank isBlank written inductionHypothesis =>
      exact .blank isBlank inductionHypothesis
  | word spells apart written inductionHypothesis =>
      rw [List.append_assoc]
      exact .word spells (apart.append detached) inductionHypothesis

/-- A named symbol is spelled by its name. -/
theorem Spells.ofName
    {name : String}
    (isName : Text.isName name.toList = true) : Spells (.symbol name) name.toList := by
  have spells := Spells.symbol isName
  rwa [String.ofList_toList] at spells

/-! ## Literals -/

theorem ofLiteral?_point
    {digits fraction : List Char}
    (allDigits : ∀ digit ∈ digits ++ fraction, digit.isDigit = true)
    (nonempty : digits ++ fraction ≠ []) :
    Decimal.ofLiteral? (digits ++ '.' :: fraction) =
      some ⟨Nat.ofDigitChars 10 (digits ++ fraction) 0, fraction.length⟩ := by
  have front : ∀ digit ∈ digits, digit.isDigit = true :=
    fun digit member => allDigits digit (List.mem_append_left fraction member)
  have back : fraction.all Char.isDigit = true :=
    List.all_eq_true.mpr fun digit member =>
      allDigits digit (List.mem_append_right digits member)
  have taken : (digits ++ '.' :: fraction).takeWhile Char.isDigit = digits := by
    rw [List.takeWhile_append_of_pos front]
    simp
  have dropped : (digits ++ '.' :: fraction).dropWhile Char.isDigit =
      '.' :: fraction := by
    rw [List.dropWhile_append_of_pos front]
    simp
  have notEmpty : (digits.isEmpty && fraction.isEmpty) = false := by
    cases digits <;> cases fraction <;> simp_all
  simp only [Decimal.ofLiteral?, taken, dropped, back, notEmpty, beq_self_eq_true,
    Bool.not_false, Bool.and_self, if_true]

/-- A number is spelled by a literal for it. -/
theorem Spells.ofLiteral?
    {value : Decimal} {word : List Char}
    (spells : Spells (.number value) word) :
    Decimal.ofLiteral? word = some value := by
  cases spells with
  | whole allDigits nonempty => exact Decimal.ofLiteral?_of_digits allDigits nonempty
  | point allDigits nonempty => exact ofLiteral?_point allDigits nonempty

theorem Spells.literal_characters
    {value : Decimal} {word : List Char}
    (spells : Spells (.number value) word) :
    ∀ character ∈ word, Decimal.isLiteralCharacter character = true := by
  intro character member
  rw [Decimal.isLiteralCharacter, Bool.or_eq_true, beq_iff_eq]
  cases spells with
  | whole allDigits nonempty => exact .inl (allDigits character member)
  | point allDigits nonempty =>
      rcases List.mem_append.mp member with front | back
      · exact .inl (allDigits character (List.mem_append_left _ front))
      · rcases List.mem_cons.mp back with point | behind
        · exact .inr point
        · exact .inl (allDigits character (List.mem_append_right _ behind))

theorem Spells.ne_nil
    {token : Token} {word : List Char}
    (spells : Spells token word) : word ≠ [] := by
  cases spells with
  | whole allDigits nonempty => exact nonempty
  | point allDigits nonempty => exact List.append_ne_nil_of_right_ne_nil _ (by simp)
  | symbol isName => exact Text.ne_nil_of_isName isName
  | plus | hyphen | minus | star | opening | closing => exact List.cons_ne_nil _ _

/-! ## Kinds of characters -/

theorem isLiteralCharacter_iff {character : Char} :
    Decimal.isLiteralCharacter character = true ↔
      (48 ≤ character.toNat ∧ character.toNat ≤ 57) ∨ character.toNat = 46 := by
  rw [Decimal.isLiteralCharacter, Bool.or_eq_true, Char.isDigit_iff_toNat, beq_iff_eq,
    ← Char.toNat_inj]
  rfl

theorem isNameStart_iff {character : Char} :
    Text.isNameStart character = true ↔
      ((65 ≤ character.toNat ∧ character.toNat ≤ 90) ∨
        (97 ≤ character.toNat ∧ character.toNat ≤ 122)) ∨ character.toNat = 95 := by
  have letter : character.isAlpha =
      (decide (65 ≤ character.val ∧ character.val ≤ 90) ||
        (decide (97 ≤ character.val) && decide (character.val ≤ 122))) := rfl
  simp only [Text.isNameStart, letter, Bool.or_eq_true, Bool.and_eq_true,
    decide_eq_true_eq, UInt32.le_iff_toNat_le, beq_iff_eq, ← Char.toNat_inj]
  rfl

theorem isLiteralCharacter_of_isNameStart
    {character : Char}
    (start : Text.isNameStart character = true) :
    Decimal.isLiteralCharacter character = false := by
  rw [isNameStart_iff] at start
  rw [Bool.eq_false_iff, ne_eq, isLiteralCharacter_iff]
  omega

/-- Blanks belong to no word. -/
theorem not_start_of_isBlank
    {character : Char}
    (isBlank : Text.isBlank character = true) :
    Decimal.isLiteralCharacter character = false ∧
      Text.isNameStart character = false := by
  simp only [Text.isBlank, Bool.or_eq_true, Bool.and_eq_true, decide_eq_true_eq,
    beq_iff_eq] at isBlank
  rw [Bool.eq_false_iff, Bool.eq_false_iff, ne_eq, ne_eq, isLiteralCharacter_iff,
    isNameStart_iff]
  omega

/-! ## Steps of a scan -/

/-- The characters that are tokens by themselves. -/
def operators : List (Char × Token) :=
  [('+', .plus), ('-', .minus), ('\u2212', .minus), ('*', .star), ('(', .opening),
    (')', .closing)]

theorem mem_operators_iff {character : Char} {token : Token} :
    (character, token) ∈ operators ↔ ofCharacter? character = some token := by
  simp only [operators, List.mem_cons, Prod.mk.injEq, List.not_mem_nil, or_false]
  unfold ofCharacter?
  grind

/-- Operators begin no word and are not blank. -/
theorem not_start_of_mem_operators
    {character : Char} {token : Token}
    (operator : (character, token) ∈ operators) :
    Decimal.isLiteralCharacter character = false ∧
      Text.isNameStart character = false ∧ Text.isBlank character = false := by
  have apart : ∀ pair ∈ operators, Decimal.isLiteralCharacter pair.1 = false ∧
      Text.isNameStart pair.1 = false ∧ Text.isBlank pair.1 = false := by
    decide
  exact apart _ operator

/-- What begins a word or is blank is no token. -/
theorem ofCharacter?_eq_none
    {character : Char}
    (other : Decimal.isLiteralCharacter character = true ∨
      Text.isNameStart character = true ∨ Text.isBlank character = true) :
    ofCharacter? character = none := by
  refine Option.eq_none_iff_forall_ne_some.mpr fun token found => ?_
  obtain ⟨noLiteral, noName, noBlank⟩ :=
    not_start_of_mem_operators (mem_operators_iff.mpr found)
  rcases other with literal | name | blank
  · exact absurd (noLiteral.symm.trans literal) Bool.false_ne_true
  · exact absurd (noName.symm.trans name) Bool.false_ne_true
  · exact absurd (noBlank.symm.trans blank) Bool.false_ne_true

variable {source : String}

@[simp] theorem extend?_absent (character : Char) :
    Word.absent.extend? character = none :=
  rfl

@[simp] theorem finish_absent : Word.absent.finish source = pure [] :=
  rfl

/-- A character without a token starts a word or is passed over. -/
theorem scanFrom_start
    {character : Char} {word : Word}
    (noToken : ofCharacter? character = none)
    (starts : Word.start source character = pure word)
    (rest : List Char) :
    scanFrom source .absent (character :: rest) = scanFrom source word rest := by
  have passed : Attempt.ofNoted (Word.start source character) = pure word := by
    rw [starts]
    rfl
  simp only [scanFrom, extend?_absent, finish_absent, noToken, passed, pure_bind,
    List.nil_append, bind_pure]

/-- A character with a token is read as that. -/
theorem scanFrom_token
    {character : Char} {token : Token}
    (found : ofCharacter? character = some token)
    (rest : List Char) :
    scanFrom source .absent (character :: rest) =
      scanFrom source .absent rest >>= fun later => pure (token :: later) := by
  simp only [scanFrom, extend?_absent, finish_absent, found, pure_bind, List.nil_append]

/-- A word is read as long as it goes on. -/
theorem scanFrom_append
    {word : List Char → Word} {characters : List Char}
    (continues : ∀ character ∈ characters, ∀ reversed,
      (word reversed).extend? character = some (word (character :: reversed)))
    (reversed rest : List Char) :
    scanFrom source (word reversed) (characters ++ rest) =
      scanFrom source (word (characters.reverse ++ reversed)) rest := by
  induction characters generalizing reversed with
  | nil => rfl
  | cons character later inductionHypothesis =>
      rw [List.cons_append, scanFrom_cons_of_extend _
        (continues character List.mem_cons_self reversed),
        inductionHypothesis fun next member =>
          continues next (List.mem_cons_of_mem character member),
        List.reverse_cons, List.append_assoc]
      rfl

/-- Where a word does not go on, it is finished and the scan starts anew. -/
theorem scanFrom_finish
    {word : Word} {text : List Char}
    (ends : ∀ next ∈ text.head?, word.extend? next = none) :
    scanFrom source word text =
      word.finish source >>= fun finished =>
        scanFrom source .absent text >>= fun later => pure (finished ++ later) := by
  cases text with
  | nil => simp only [scanFrom_nil, finish_absent, pure_bind, List.append_nil, bind_pure]
  | cons next rest =>
      have stops : word.extend? next = none := ends next rfl
      simp only [scanFrom, stops, extend?_absent, finish_absent, pure_bind, List.nil_append]
      cases ofCharacter? next with
      | none => simp only [bind_assoc, pure_bind]
      | some found => simp only [bind_assoc, pure_bind]

/-- In front of a character that continues no word a text is scanned as if it stood alone. -/
theorem scanFrom_append_stop
    {stop : Char}
    (stops : ∀ word : Word, word.extend? stop = none)
    (word : Word)
    (front rest : List Char) :
    scanFrom source word (front ++ stop :: rest) =
      scanFrom source word front >>= fun first =>
        scanFrom source .absent (stop :: rest) >>= fun later => pure (first ++ later) := by
  induction front generalizing word with
  | nil =>
      rw [List.nil_append, scanFrom_nil]
      apply scanFrom_finish
      rintro next ⟨⟩
      exact stops word
  | cons character front inductionHypothesis =>
      rw [List.cons_append]
      cases continues : word.extend? character with
      | some longer =>
          rw [scanFrom_cons_of_extend _ continues, scanFrom_cons_of_extend _ continues]
          exact inductionHypothesis longer
      | none =>
          rw [scanFrom, scanFrom, continues]
          cases ofCharacter? character with
          | some token =>
              simp only [inductionHypothesis, bind_assoc, pure_bind, List.append_assoc,
                List.cons_append]
          | none =>
              simp only [inductionHypothesis, bind_assoc, pure_bind, List.append_assoc]

/-- A word is read from its first character to its last one. -/
theorem scanFrom_word
    {word : List Char → Word}
    {first : Char} {rest text : List Char}
    (noToken : ofCharacter? first = none)
    (starts : Word.start source first = pure (word [first]))
    (continues : ∀ character ∈ rest, ∀ reversed,
      (word reversed).extend? character = some (word (character :: reversed)))
    (ends : ∀ next ∈ text.head?, ∀ reversed, (word reversed).extend? next = none) :
    scanFrom source .absent ((first :: rest) ++ text) =
      (word (first :: rest).reverse).finish source >>= fun finished =>
        scanFrom source .absent text >>= fun later => pure (finished ++ later) := by
  rw [List.cons_append, scanFrom_start noToken starts, scanFrom_append continues,
    scanFrom_finish (fun next head => ends next head _), List.reverse_cons]

/-- Digits and points are read as one literal, be it a number or not. -/
theorem scanFrom_literal
    {literal text : List Char}
    (nonempty : literal ≠ [])
    (isLiteral : ∀ character ∈ literal, Decimal.isLiteralCharacter character = true)
    (ends : ∀ next ∈ text.head?, Decimal.isLiteralCharacter next = false) :
    scanFrom source .absent (literal ++ text) =
      (Word.literal literal.reverse).finish source >>= fun finished =>
        scanFrom source .absent text >>= fun later => pure (finished ++ later) := by
  cases literal with
  | nil => exact absurd rfl nonempty
  | cons first rest =>
      rw [List.forall_mem_cons] at isLiteral
      apply scanFrom_word (ofCharacter?_eq_none (.inl isLiteral.1))
      · rw [Word.start, if_pos isLiteral.1]
      · intro character member reversed
        rw [Word.extend?, if_pos (isLiteral.2 character member)]
      · intro next head reversed
        rw [Word.extend?, if_neg (Bool.eq_false_iff.mp (ends next head))]

/-! ## Scanning what was written -/

theorem scanFrom_number
    {value : Decimal} {word text : List Char}
    (spells : Spells (.number value) word)
    (apart : Apart (.number value) text) :
    scanFrom source .absent (word ++ text) =
      scanFrom source .absent text >>= fun later => pure (.number value :: later) := by
  rw [scanFrom_literal spells.ne_nil spells.literal_characters apart.number]
  simp only [Word.finish, List.reverse_reverse, spells.ofLiteral?, pure_bind,
    List.singleton_append]

theorem scanFrom_symbol
    {name text : List Char}
    (isName : Text.isName name = true)
    (ends : ∀ next ∈ text.head?, Text.isNameCharacter next = false) :
    scanFrom source .absent (name ++ text) =
      scanFrom source .absent text >>= fun later =>
        pure (.symbol (String.ofList name) :: later) := by
  cases name with
  | nil => exact absurd rfl (Text.ne_nil_of_isName isName)
  | cons first rest =>
      rw [Text.isName, Bool.and_eq_true] at isName
      obtain ⟨isFirst, isRest⟩ := isName
      have noLiteral := isLiteralCharacter_of_isNameStart isFirst
      rw [@scanFrom_word source .name first rest text
        (ofCharacter?_eq_none (.inr (.inl isFirst)))]
      · simp only [Word.finish, List.reverse_reverse, pure_bind, List.singleton_append]
      · rw [Word.start, if_neg (Bool.eq_false_iff.mp noLiteral), if_pos isFirst]
      · intro character member reversed
        rw [Word.extend?, if_pos (List.all_eq_true.mp isRest character member)]
      · intro next head reversed
        rw [Word.extend?, if_neg (Bool.eq_false_iff.mp (ends next head))]

/-- A blank is passed over without a notice. -/
theorem scanFrom_blank
    {blank : Char}
    (isBlank : Text.isBlank blank = true)
    (rest : List Char) :
    scanFrom source .absent (blank :: rest) = scanFrom source .absent rest := by
  obtain ⟨noLiteral, noName⟩ := not_start_of_isBlank isBlank
  apply scanFrom_start (ofCharacter?_eq_none (.inr (.inr isBlank)))
  rw [Word.start, if_neg (Bool.eq_false_iff.mp noLiteral),
    if_neg (Bool.eq_false_iff.mp noName), if_pos isBlank]

/-- However tokens are written, they are what is scanned, and nothing is passed
over but blanks. -/
theorem Written.scanFrom_eq
    {tokens : List Token} {text : List Char}
    (written : Written tokens text) :
    scanFrom source .absent text = pure tokens := by
  induction written with
  | nil => rfl
  | blank isBlank written inductionHypothesis =>
      rw [scanFrom_blank isBlank, inductionHypothesis]
  | word spells apart written inductionHypothesis =>
      cases spells with
      | whole allDigits nonempty =>
          rw [scanFrom_number (.whole allDigits nonempty) apart, inductionHypothesis,
            pure_bind]
      | point allDigits nonempty =>
          rw [scanFrom_number (.point allDigits nonempty) apart, inductionHypothesis,
            pure_bind]
      | symbol isName =>
          rw [scanFrom_symbol isName apart.symbol, inductionHypothesis, pure_bind]
      | plus | hyphen | minus | star | opening | closing =>
          rw [List.singleton_append, scanFrom_token rfl, inductionHypothesis, pure_bind]

/-! ## Characters of a text -/

/-- Names are made of what can begin a word. -/
theorem start_of_isNameCharacter
    {character : Char}
    (goesOn : Text.isNameCharacter character = true) :
    Decimal.isLiteralCharacter character = true ∨ Text.isNameStart character = true := by
  rw [Text.isNameCharacter, Char.isAlphanum, Bool.or_eq_true, Bool.or_eq_true] at goesOn
  rw [Text.isNameStart, Decimal.isLiteralCharacter, Bool.or_eq_true, Bool.or_eq_true]
  rcases goesOn with (letter | digit) | underscore
  · exact .inr (.inl letter)
  · exact .inl (.inl digit)
  · exact .inr (.inr underscore)

/-- A character that can begin no word does not continue one either. -/
theorem extend?_eq_none
    {character : Char}
    (noLiteral : Decimal.isLiteralCharacter character = false)
    (noName : Text.isNameStart character = false)
    (word : Word) : word.extend? character = none := by
  cases word with
  | absent => rfl
  | literal reversed => simp [Word.extend?, noLiteral]
  | name reversed =>
      refine if_neg fun goesOn => ?_
      rcases start_of_isNameCharacter goesOn with literal | start
      · exact absurd (noLiteral.symm.trans literal) Bool.false_ne_true
      · exact absurd (noName.symm.trans start) Bool.false_ne_true

/-- What can begin a word is no blank and separates nothing. -/
theorem solid_of_start
    {character : Char}
    (start : Decimal.isLiteralCharacter character = true ∨
      Text.isNameStart character = true) :
    Text.isBlank character = false ∧ character ≠ ',' ∧ character ≠ ';' := by
  refine ⟨?_, ?_, ?_⟩
  · rw [Bool.eq_false_iff]
    intro isBlank
    rw [(not_start_of_isBlank isBlank).1, (not_start_of_isBlank isBlank).2] at start
    simp only [Bool.false_eq_true, or_self] at start
  · rintro rfl
    exact absurd start (by decide)
  · rintro rfl
    exact absurd start (by decide)

/-- No word has a blank in it, a comma or a semicolon. -/
theorem Spells.solid
    {token : Token} {word : List Char}
    (spells : Spells token word) :
    ∀ character ∈ word,
      Text.isBlank character = false ∧ character ≠ ',' ∧ character ≠ ';' := by
  intro character member
  cases spells with
  | whole allDigits nonempty =>
      exact solid_of_start
        (.inl (literal_characters (.whole allDigits nonempty) character member))
  | point allDigits nonempty =>
      exact solid_of_start
        (.inl (literal_characters (.point allDigits nonempty) character member))
  | symbol isName =>
      cases word with
      | nil => exact absurd rfl (Text.ne_nil_of_isName isName)
      | cons first rest =>
          rw [Text.isName, Bool.and_eq_true] at isName
          rcases List.mem_cons.mp member with rfl | later
          · exact solid_of_start (.inr isName.1)
          · exact solid_of_start
              (start_of_isNameCharacter (List.all_eq_true.mp isName.2 character later))
  | plus | hyphen | minus | star | opening | closing =>
      rw [List.mem_singleton.mp member]
      decide

/-- Tokens are written without commas and semicolons. -/
theorem Written.solid
    {tokens : List Token} {text : List Char}
    (written : Written tokens text) :
    ∀ character ∈ text, character ≠ ',' ∧ character ≠ ';' := by
  induction written with
  | nil => exact List.forall_mem_nil _
  | @blank tokens blank text isBlank written inductionHypothesis =>
      refine List.forall_mem_cons.mpr ⟨⟨?_, ?_⟩, inductionHypothesis⟩
      · rintro rfl
        exact absurd isBlank (by decide)
      · rintro rfl
        exact absurd isBlank (by decide)
  | word spells apart written inductionHypothesis =>
      exact List.forall_mem_append.mpr
        ⟨fun character member => (spells.solid character member).2, inductionHypothesis⟩

/-- Where there is a token, its word is not blank. -/
theorem Written.allBlank_eq_false
    {tokens : List Token} {text : List Char}
    (written : Written tokens text)
    (nonempty : tokens ≠ []) : Text.allBlank text = false := by
  induction written with
  | nil => exact absurd rfl nonempty
  | blank isBlank written inductionHypothesis =>
      rw [Text.allBlank, List.all_cons, isBlank, Bool.true_and]
      exact inductionHypothesis nonempty
  | @word token tokens word text spells apart written inductionHypothesis =>
      cases word with
      | nil => exact absurd rfl spells.ne_nil
      | cons first rest =>
          rw [Text.allBlank, List.cons_append, List.all_cons,
            (spells.solid first List.mem_cons_self).1, Bool.false_and]

/-- Blanks in front of the tokens can be left out, all of them or some kinds. -/
theorem Written.dropWhile
    {tokens : List Token} {text : List Char}
    (written : Written tokens text)
    {drop : Char → Bool}
    (blank : ∀ character, drop character = true → Text.isBlank character = true) :
    Written tokens (text.dropWhile drop) := by
  induction written with
  | nil => exact .nil
  | @blank tokens first text isBlank written inductionHypothesis =>
      rw [List.dropWhile_cons]
      split
      · exact inductionHypothesis
      · exact .blank isBlank written
  | @word token tokens word text spells apart written inductionHypothesis =>
      cases word with
      | nil => exact absurd rfl spells.ne_nil
      | cons first rest =>
          have solid := (spells.solid first List.mem_cons_self).1
          have kept : ¬drop first = true := by
            intro dropped
            exact absurd (solid.symm.trans (blank first dropped)) Bool.false_ne_true
          rw [List.cons_append, List.dropWhile_cons_of_neg kept, ← List.cons_append]
          exact .word spells apart written

/-- Layout in front of the tokens can be left out. -/
theorem Written.dropWhile_isLayout
    {tokens : List Token} {text : List Char}
    (written : Written tokens text) :
    Written tokens (text.dropWhile Text.isLayout) :=
  written.dropWhile fun _ => Text.isBlank_of_isLayout

/-- Blanks are no words. -/
theorem Written.eq_nil_of_blank
    {tokens : List Token} {text : List Char}
    (written : Written tokens text)
    (blank : ∀ character ∈ text, Text.isBlank character = true) : tokens = [] := by
  cases tokens with
  | nil => rfl
  | cons token rest =>
      have solid := written.allBlank_eq_false (List.cons_ne_nil token rest)
      rw [Text.allBlank, List.all_eq_true.mpr blank] at solid
      cases solid

/-- A word that does not run on does not do so in front of less text. -/
theorem Apart.front
    {token : Token} {text rest : List Char}
    (apart : Apart token (text ++ rest)) : Apart token text := by
  cases text with
  | cons next later => cases token <;> exact apart
  | nil => cases token <;> trivial

/-- Blanks behind the tokens can be left out. -/
theorem Written.of_append_blank
    {tokens : List Token} {text gap : List Char}
    (written : Written tokens (text ++ gap))
    (blank : ∀ character ∈ gap, Text.isBlank character = true) : Written tokens text := by
  generalize whole : text ++ gap = source at written
  induction written generalizing text with
  | nil =>
      obtain ⟨rfl, -⟩ := List.append_eq_nil_iff.mp whole
      exact .nil
  | @blank tokens first rest isBlank written inductionHypothesis =>
      cases text with
      | nil =>
          rw [List.nil_append] at whole
          rw [whole, List.forall_mem_cons] at blank
          rw [written.eq_nil_of_blank blank.2]
          exact .nil
      | cons head later =>
          obtain ⟨rfl, behind⟩ := List.cons.inj whole
          exact .blank isBlank (inductionHypothesis behind)
  | @word token tokens word rest spells apart written inductionHypothesis =>
      -- The gap begins behind the word, as no word has a blank in it.
      obtain ⟨later, rfl, rfl⟩ : ∃ later, text = word ++ later ∧ rest = later ++ gap := by
        rcases List.append_eq_append_iff.mp whole with ⟨ending, cut, gapSplit⟩ | behind
        · cases ending with
          | nil => exact ⟨[], by simpa using cut.symm, by simpa using gapSplit.symm⟩
          | cons first _ =>
              have isBlank := blank first (by rw [gapSplit]; exact List.mem_cons_self)
              have solid := (spells.solid first (by rw [cut]; simp)).1
              exact absurd (solid.symm.trans isBlank) Bool.false_ne_true
        · exact behind
      exact .word spells apart.front (inductionHypothesis rfl)

/-- Blanks belong to no word that stands in front of them. -/
theorem detached_of_blank
    {gap : List Char}
    (blank : ∀ character ∈ gap, Text.isBlank character = true) : Detached gap := by
  cases gap with
  | nil => trivial
  | cons first rest =>
      have isBlank := blank first List.mem_cons_self
      refine ⟨(not_start_of_isBlank isBlank).1, Bool.eq_false_iff.mpr fun goesOn => ?_⟩
      have solid := (solid_of_start (start_of_isNameCharacter goesOn)).1
      exact absurd (solid.symm.trans isBlank) Bool.false_ne_true

/-- Blanks can be written around the tokens. -/
theorem Written.surround
    {tokens : List Token} {text before behind : List Char}
    (written : Written tokens text)
    (blankBefore : ∀ character ∈ before, Text.isBlank character = true)
    (blankBehind : ∀ character ∈ behind, Text.isBlank character = true) :
    Written tokens (before ++ text ++ behind) := by
  have inFront : ∀ {others : List Token} {gap text : List Char},
      (∀ character ∈ gap, Text.isBlank character = true) → Written others text →
        Written others (gap ++ text) := by
    intro others gap text blank written
    induction gap with
    | nil => exact written
    | cons first rest inductionHypothesis =>
        rw [List.forall_mem_cons] at blank
        exact .blank blank.1 (inductionHypothesis blank.2)
  have gap := inFront blankBehind .nil
  rw [List.append_nil] at gap
  have whole := (inFront blankBefore written).append gap (detached_of_blank blankBehind)
  rwa [List.append_nil] at whole

/-- Blanks around the tokens can be left out. -/
theorem Written.trim
    {tokens : List Token} {text : List Char}
    (written : Written tokens text) : Written tokens (Text.trim text) := by
  have behind : Written tokens (Text.trimLeft text) := written.dropWhile fun _ => id
  obtain ⟨gap, blank, split⟩ := Text.exists_trimRight_append (Text.trimLeft text)
  rw [split] at behind
  exact behind.of_append_blank blank

end Token
end PolyMatrix
