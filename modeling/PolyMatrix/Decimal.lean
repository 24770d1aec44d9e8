/-!
# Decimal numbers

The numbers as they are written: an unsigned literal is a string of digits with
at most one point, and a printed magnitude has at most three places.  Both are
exact here; how a coefficient type rounds to them is its own affair.
-/

namespace PolyMatrix

/-- The number `mantissa / 10 ^ places`. -/
structure Decimal where
  /-- All digits read as one natural number. -/
  mantissa : Nat
  /-- How many of the digits stand behind the point. -/
  places : Nat
  deriving DecidableEq, Repr

namespace Decimal

/-- The power of ten that the mantissa is divided by. -/
def denominator (decimal : Decimal) : Nat :=
  Nat.pow 10 decimal.places

/-- The characters that a literal is made of. -/
def isLiteralCharacter (character : Char) : Bool :=
  character.isDigit || character == '.'

/-- The number that a literal denotes: digits, at most one point among, before or
behind them, and at least one digit. -/
def ofLiteral? (literal : List Char) : Option Decimal :=
  let whole := literal.takeWhile Char.isDigit
  match literal.dropWhile Char.isDigit with
  | [] =>
      if whole.isEmpty then none
      else some ⟨Nat.ofDigitChars 10 whole 0, 0⟩
  | point :: fraction =>
      if point == '.' && fraction.all Char.isDigit &&
          !(whole.isEmpty && fraction.isEmpty) then
        some ⟨Nat.ofDigitChars 10 (whole ++ fraction) 0, fraction.length⟩
      else none

/-- A literal of digits alone denotes the number that the digits denote. -/
theorem ofLiteral?_of_digits
    {literal : List Char}
    (digits : ∀ character ∈ literal, character.isDigit = true)
    (nonempty : literal ≠ []) :
    ofLiteral? literal = some ⟨Nat.ofDigitChars 10 literal 0, 0⟩ := by
  have kept : literal.takeWhile Char.isDigit ++ literal.dropWhile Char.isDigit =
      literal := List.takeWhile_append_dropWhile
  have dropped : literal.dropWhile Char.isDigit = [] := by
    clear kept nonempty
    induction literal with
    | nil => rfl
    | cons character rest inductionHypothesis => simp_all
  rw [dropped, List.append_nil] at kept
  simp [ofLiteral?, kept, dropped, nonempty]

end Decimal

/-- A nonnegative quantity rounded for printing. -/
inductive Magnitude where
  /-- A number of thousandths. -/
  | thousandths (count : Nat)
  /-- A quantity above all numbers. -/
  | infinite
  /-- No quantity at all. -/
  | undefined
  deriving DecidableEq, Repr

namespace Magnitude

/-- The three digits of a number below one thousand, from the first to the last
that is not zero. -/
def fractionDigits (count : Nat) : List Char :=
  let digits := [Nat.digitChar (count / 100 % 10), Nat.digitChar (count / 10 % 10),
    Nat.digitChar (count % 10)]
  (digits.reverse.dropWhile (· == '0')).reverse

/-- At most three places behind the point, none of them a trailing zero; a whole
number has no point. -/
def characters : Magnitude → List Char
  | .thousandths count =>
      let whole := Nat.toDigits 10 (count / 1000)
      match fractionDigits (count % 1000) with
      | [] => whole
      | fraction => whole ++ '.' :: fraction
  | .infinite => ['i', 'n', 'f']
  | .undefined => ['N', 'a', 'N']

/-- The printed form of a magnitude. -/
def text (magnitude : Magnitude) : String :=
  String.ofList magnitude.characters

/-- A whole number is printed by its digits alone. -/
@[simp] theorem characters_whole (number : Nat) :
    characters (.thousandths (number * 1000)) = Nat.toDigits 10 number := by
  have digits : fractionDigits 0 = [] := by decide
  simp [characters, digits]

example : characters (.thousandths 12340) = ['1', '2', '.', '3', '4'] := by decide
example : characters (.thousandths 5) = ['0', '.', '0', '0', '5'] := by decide
example : characters (.thousandths 0) = ['0'] := by decide

end Magnitude

/-- The natural number nearest to `numerator / denominator`; of two equally near
ones the even one. -/
def roundHalfEven (numerator denominator : Nat) : Nat :=
  let quotient := numerator / denominator
  let remainder := numerator % denominator
  if 2 * remainder < denominator then quotient
  else if denominator < 2 * remainder then quotient + 1
  else if quotient % 2 = 0 then quotient
  else quotient + 1

/-- An exact quotient is not rounded. -/
theorem roundHalfEven_mul (number denominator : Nat) (positive : 0 < denominator) :
    roundHalfEven (number * denominator) denominator = number := by
  simp [roundHalfEven, Nat.mul_div_cancel number positive, positive]

end PolyMatrix
