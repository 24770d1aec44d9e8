import Mathlib.Tactic.NormNum
import PolyMatrix.Proofs.Expression.Grammar
import PolyMatrix.Proofs.Expression.Layout

/-!
# Printed magnitudes are numbers

A count of thousandths is printed as a literal, without trailing zeros and without a
point where nothing stands behind it.  The literal is read as exactly the printed
quantity.
-/

namespace PolyMatrix
namespace Magnitude

open Decimal

/-- The number that a count of thousandths is printed as. -/
def decimal (count : Nat) : Decimal where
  mantissa := Nat.ofDigitChars 10
    (Nat.toDigits 10 (count / 1000) ++ fractionDigits (count % 1000)) 0
  places := (fractionDigits (count % 1000)).length

/-- Trailing zeros are all that the three digits lose. -/
theorem fractionDigits_eq (count : Nat) :
    fractionDigits count =
      if count % 10 = 0 then
        if count / 10 % 10 = 0 then
          if count / 100 % 10 = 0 then [] else [Nat.digitChar (count / 100 % 10)]
        else [Nat.digitChar (count / 100 % 10), Nat.digitChar (count / 10 % 10)]
      else
        [Nat.digitChar (count / 100 % 10), Nat.digitChar (count / 10 % 10),
          Nat.digitChar (count % 10)] := by
  simp only [fractionDigits, List.reverse_cons, List.reverse_nil, List.nil_append,
    List.cons_append, List.dropWhile_cons, beq_iff_eq, Nat.digitChar_eq_zero,
    List.dropWhile_nil]
  split
  · split
    · split
      · rfl
      · rfl
    · rfl
  · rfl

theorem isDigit_of_mem_fractionDigits
    {count : Nat}
    {digit : Char}
    (member : digit ∈ fractionDigits count) : digit.isDigit = true := by
  have digits : digit = Nat.digitChar (count / 100 % 10) ∨
      digit = Nat.digitChar (count / 10 % 10) ∨ digit = Nat.digitChar (count % 10) := by
    rw [fractionDigits_eq] at member
    grind
  rcases digits with rfl | rfl | rfl
  · rw [Nat.isDigit_digitChar, decide_eq_true_eq]
    omega
  · rw [Nat.isDigit_digitChar, decide_eq_true_eq]
    omega
  · rw [Nat.isDigit_digitChar, decide_eq_true_eq]
    omega

/-- The digits behind the point make up a number below one thousand. -/
theorem ofDigitChars_fractionDigits
    (whole : Nat)
    {count : Nat}
    (below : count < 1000) :
    Nat.ofDigitChars 10 (fractionDigits count) whole * 1000 =
      (whole * 1000 + count) * 10 ^ (fractionDigits count).length := by
  have hundreds : count / 100 % 10 < 10 := Nat.mod_lt _ (by decide)
  have tens : count / 10 % 10 < 10 := Nat.mod_lt _ (by decide)
  have ones : count % 10 < 10 := Nat.mod_lt _ (by decide)
  rw [fractionDigits_eq]
  split
  · split
    · split
      · simp only [Nat.ofDigitChars_nil, List.length_nil]
        omega
      · simp only [Nat.ofDigitChars_cons_digitChar_of_lt_ten hundreds,
          Nat.ofDigitChars_nil, List.length_cons, List.length_nil]
        omega
    · simp only [Nat.ofDigitChars_cons_digitChar_of_lt_ten hundreds,
        Nat.ofDigitChars_cons_digitChar_of_lt_ten tens, Nat.ofDigitChars_nil,
        List.length_cons, List.length_nil]
      omega
  · simp only [Nat.ofDigitChars_cons_digitChar_of_lt_ten hundreds,
      Nat.ofDigitChars_cons_digitChar_of_lt_ten tens,
      Nat.ofDigitChars_cons_digitChar_of_lt_ten ones, Nat.ofDigitChars_nil,
      List.length_cons, List.length_nil]
    omega

/-- What is printed is a literal of the number. -/
theorem spells_characters (count : Nat) :
    Token.Spells (.number (decimal count)) (characters (.thousandths count)) := by
  have digits : ∀ digit ∈
      Nat.toDigits 10 (count / 1000) ++ fractionDigits (count % 1000),
      digit.isDigit = true := by
    intro digit member
    rcases List.mem_append.mp member with whole | fraction
    · exact Nat.isDigit_of_mem_toDigits (by decide) (by decide) whole
    · exact isDigit_of_mem_fractionDigits fraction
  have nonempty : Nat.toDigits 10 (count / 1000) ≠ [] := Nat.toDigits_ne_nil
  cases split : fractionDigits (count % 1000) with
  | nil =>
      rw [split, List.append_nil] at digits
      simp only [characters, decimal, split, List.append_nil, List.length_nil]
      exact .whole digits nonempty
  | cons first rest =>
      rw [split] at digits
      simp only [characters, decimal, split]
      exact .point digits (List.append_ne_nil_of_left_ne_nil nonempty _)

/-- The printed number is the count of thousandths. -/
theorem toRat_decimal (count : Nat) : (decimal count).toRat = count / 1000 := by
  have split : count / 1000 * 1000 + count % 1000 = count := Nat.div_add_mod' count 1000
  have mantissa : (decimal count).mantissa * 1000 =
      count * 10 ^ (decimal count).places := by
    have digits := ofDigitChars_fractionDigits (count / 1000)
      (Nat.mod_lt count (by decide : 0 < 1000))
    rw [split] at digits
    simp only [decimal, Nat.ofDigitChars_append, Nat.ofDigitChars_ten_toDigits]
    exact digits
  have positive : ((decimal count).denominator : ℚ) ≠ 0 := by
    exact_mod_cast (Nat.pow_pos (by decide : 0 < 10)).ne'
  rw [toRat, div_eq_div_iff positive (by norm_num)]
  exact_mod_cast mantissa

/-- Only the number one is printed as a single digit one. -/
theorem characters_eq_one_iff (count : Nat) :
    characters (.thousandths count) = ['1'] ↔ decimal count = ⟨1, 0⟩ := by
  constructor
  · intro single
    have read := (spells_characters count).ofLiteral?
    rw [single] at read
    exact (Option.some.inj read).symm
  · intro one
    have value := toRat_decimal count
    have whole : count = 1 * 1000 := by
      rw [one, eq_div_iff (by norm_num)] at value
      norm_num [toRat, denominator] at value
      exact_mod_cast value.symm
    rw [whole, characters_whole]
    rfl

end Magnitude
end PolyMatrix
