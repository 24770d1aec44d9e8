import PolyMatrix.Decimal
import PolyMatrix.Noted
import PolyMatrix.Text.Blank
import PolyMatrix.Text.Symbol

/-!
# Tokens of an expression

An expression is made of numbers, symbols, signs, stars and round brackets.
Words are read as long as they go on: a run of digits and points is one number, a
run of letters, digits and underscores one symbol.  Blanks separate words, and a
character that belongs to no token is left out with a notice.

The only fault is a run of digits and points that is no number.
-/

namespace PolyMatrix

/-- The smallest unit of an expression. -/
inductive Token
  | number (value : Decimal)
  | symbol (name : String)
  | plus
  | minus
  | star
  | opening
  | closing
  deriving DecidableEq, Repr

namespace Token

/-- How a token is called in notices. -/
def text : Token → String
  | number _ => "Number"
  | symbol _ => "Ident"
  | plus => "+"
  | minus => "-"
  | star => "*"
  | opening => "("
  | closing => ")"

/-- The tokens of one character; the typographic minus is a minus too. -/
def ofCharacter? (character : Char) : Option Token :=
  if character == '+' then some plus
  else if character == '-' || character == '\u2212' then some minus
  else if character == '*' then some star
  else if character == '(' then some opening
  else if character == ')' then some closing
  else none

/-- The word that is being read, its last character first. -/
inductive Word
  | absent
  | literal (reversed : List Char)
  | name (reversed : List Char)
  deriving DecidableEq, Repr

namespace Word

/-- The word with one more character, if that continues it. -/
def extend? (word : Word) (character : Char) : Option Word :=
  match word with
  | absent => none
  | literal reversed =>
      if Decimal.isLiteralCharacter character then
        some (literal (character :: reversed))
      else none
  | name reversed =>
      if Text.isNameCharacter character then
        some (name (character :: reversed))
      else none

/-- The token that a finished word is. -/
def finish (source : String) : Word → Attempt (List Token)
  | absent => pure []
  | literal reversed =>
      match Decimal.ofLiteral? reversed.reverse with
      | some value => pure [number value]
      | none => Attempt.fail (.notNumber (String.ofList reversed.reverse) source)
  | name reversed => pure [symbol (String.ofList reversed.reverse)]

/-- The word that a character begins. -/
def start (source : String) (character : Char) : Noted Word :=
  if Decimal.isLiteralCharacter character then pure (literal [character])
  else if Text.isNameStart character then pure (name [character])
  else if Text.isBlank character then pure absent
  else do
    Noted.note (.skippedCharacter character source)
    pure absent

end Word

/-- The tokens in the rest of a text, behind the word that is being read. -/
def scanFrom (source : String) : Word → List Char → Attempt (List Token)
  | word, [] => word.finish source
  | word, character :: rest =>
      match word.extend? character with
      | some longer => scanFrom source longer rest
      | none => do
          let finished ← word.finish source
          match ofCharacter? character with
          | some token => do
              let later ← scanFrom source .absent rest
              pure (finished ++ token :: later)
          | none => do
              let next ← Attempt.ofNoted (Word.start source character)
              let later ← scanFrom source next rest
              pure (finished ++ later)

/-- The tokens of a text. -/
def scan (source : String) : Attempt (List Token) :=
  scanFrom source .absent source.toList

/-- At the end of a text the word that is being read is finished. -/
@[simp] theorem scanFrom_nil (source : String) (word : Word) :
    scanFrom source word [] = word.finish source := by
  cases word <;> rfl

/-- A character that continues the word is read into it. -/
theorem scanFrom_cons_of_extend
    {source : String} {word longer : Word} {character : Char}
    (rest : List Char)
    (continues : word.extend? character = some longer) :
    scanFrom source word (character :: rest) = scanFrom source longer rest := by
  simp [scanFrom, continues]

end Token
end PolyMatrix
