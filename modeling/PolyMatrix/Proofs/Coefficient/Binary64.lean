import Mathlib
import PolyMatrix.Coefficient.Binary64

/-!
# Distances from zero in binary floating point

Two coefficients are compared by their difference, also where one of them is zero.  Taking
zero from a number, or the number from zero, is never rounded and changes at most a sign, so
the distance from zero is the absolute value.  A number that is not negligible is therefore
within the tolerance of zero exactly if its absolute value is `Binary64.epsilon`.

A number is held as bits and decoded for every operation.  Decoding loses nothing, and a
decoded number may get another sign before it is encoded again.
-/

namespace PolyMatrix
namespace Binary64

open Float.Model
open Float.Model.UnpackedFloat hiding pack unpack

/-! ## Encoding and decoding -/

/-- A decoded number with another sign. -/
def withSign (sign : Sign) : UnpackedFloat → UnpackedFloat
  | .notANumber => .notANumber
  | .infinity _ => .infinity sign
  | .zero _ => .zero sign
  | .finite _ mantissa exponent positive => .finite sign mantissa exponent positive

/-- The sign is decoded apart from the rest of a number. -/
theorem unpack_packComponents
    (sign other : Sign)
    (exponent : BitVec 11)
    (mantissa : BitVec 52) :
    UnpackedFloat.unpack Format.binary64
        (packComponents Format.binary64 sign exponent mantissa) =
      withSign sign (UnpackedFloat.unpack Format.binary64
        (packComponents Format.binary64 other exponent mantissa)) := by
  unfold UnpackedFloat.unpack
  simp only [unpackSign_packComponents, unpackExponent_packComponents,
    unpackMantissa_packComponents, Sign.ofBitVec_toBitVec]
  split
  · split <;> rfl
  · split
    · split <;> rfl
    · rfl

/-- Encoding a decoded number gives the number back. -/
theorem pack_unpack (value : Float.Model) : Float.Model.pack value.unpack = value := by
  obtain ⟨⟨bits⟩, valid⟩ := value
  unfold Float.Model.pack Float.Model.unpack
  congr
  exact UnpackedFloat.pack_unpack_of_valid valid

/-- Numbers that are decoded alike are the same. -/
theorem eq_of_unpack_eq
    {left right : Float}
    (same : left.toModel.unpack = right.toModel.unpack) : left = right := by
  have models := congrArg Float.Model.pack same
  rw [pack_unpack, pack_unpack] at models
  exact congrArg Float.ofModel models

/-! ## Other signs -/

theorem exists_withSign_eq (decoded : UnpackedFloat) :
    ∃ sign, withSign sign decoded = decoded := by
  cases decoded with
  | notANumber => exact ⟨.positive, rfl⟩
  | infinity sign => exact ⟨sign, rfl⟩
  | zero sign => exact ⟨sign, rfl⟩
  | finite sign mantissa exponent positive => exact ⟨sign, rfl⟩

/-- The sign is encoded apart from the rest of a number. -/
theorem exists_pack_withSign
    {decoded : UnpackedFloat}
    (defined : decoded ≠ .notANumber) :
    ∃ exponent mantissa, ∀ sign,
      UnpackedFloat.pack Format.binary64 (withSign sign decoded) =
        packComponents Format.binary64 sign exponent mantissa := by
  cases decoded with
  | notANumber => exact absurd rfl defined
  | infinity other => exact ⟨_, _, fun _ => rfl⟩
  | zero other => exact ⟨_, _, fun _ => rfl⟩
  | finite other mantissa exponent positive =>
      dsimp only [withSign, UnpackedFloat.pack]
      split
      · exact ⟨_, _, fun _ => rfl⟩
      · split
        · exact ⟨_, _, fun _ => rfl⟩
        · exact ⟨_, _, fun _ => rfl⟩

/-- A decoded number with another sign survives encoding and decoding. -/
theorem unpack_pack_withSign (value : Float.Model) (sign : Sign) :
    (Float.Model.pack (withSign sign value.unpack)).unpack =
      withSign sign value.unpack := by
  by_cases undefined : value.unpack = .notANumber
  · rw [undefined, withSign]
    rfl
  · obtain ⟨other, own⟩ := exists_withSign_eq value.unpack
    obtain ⟨exponent, mantissa, encoded⟩ := exists_pack_withSign undefined
    calc
      (Float.Model.pack (withSign sign value.unpack)).unpack =
          UnpackedFloat.unpack Format.binary64
            (packComponents Format.binary64 sign exponent mantissa) :=
        congrArg (UnpackedFloat.unpack Format.binary64) (encoded sign)
      _ = withSign sign (UnpackedFloat.unpack Format.binary64
            (packComponents Format.binary64 other exponent mantissa)) :=
        unpack_packComponents sign other exponent mantissa
      _ = withSign sign (Float.Model.pack value.unpack).unpack := by
        rw [← encoded, own]
        rfl
      _ = withSign sign value.unpack := by
        rw [pack_unpack]

theorem abs_eq_withSign (decoded : UnpackedFloat) :
    decoded.abs = withSign .positive decoded := by
  cases decoded <;> rfl

theorem unpack_abs (value : Float) :
    value.abs.toModel.unpack = withSign .positive value.toModel.unpack := by
  rw [← unpack_pack_withSign, ← abs_eq_withSign]
  rfl

/-- The sign takes no part in an absolute value. -/
theorem abs_withSign (value : Float) (sign : Sign) :
    (Float.ofModel (Float.Model.pack (withSign sign value.toModel.unpack))).abs =
      value.abs := by
  apply eq_of_unpack_eq
  rw [unpack_abs, unpack_abs, unpack_pack_withSign]
  cases value.toModel.unpack <;> rfl

/-! ## Distances -/

/-- Taking zero from a number changes at most its sign. -/
theorem abs_sub_zero (value : Float) : (value - Coefficient.zero).abs = value.abs := by
  suffices difference : ∃ sign, UnpackedFloat.sub Format.binary64 value.toModel.unpack
      (.zero .positive) = withSign sign value.toModel.unpack by
    obtain ⟨sign, same⟩ := difference
    rw [← abs_withSign value sign, ← same]
    rfl
  cases value.toModel.unpack with
  | notANumber => exact ⟨.positive, rfl⟩
  | infinity sign => exact ⟨sign, rfl⟩
  | zero sign => exact ⟨sign, by cases sign <;> rfl⟩
  | finite sign mantissa exponent positive => exact ⟨sign, rfl⟩

/-- Taking a number from zero changes at most its sign. -/
theorem abs_zero_sub (value : Float) : (Coefficient.zero - value).abs = value.abs := by
  suffices difference : ∃ sign, UnpackedFloat.sub Format.binary64 (.zero .positive)
      value.toModel.unpack = withSign sign value.toModel.unpack by
    obtain ⟨sign, same⟩ := difference
    rw [← abs_withSign value sign, ← same]
    rfl
  cases value.toModel.unpack with
  | notANumber => exact ⟨.positive, rfl⟩
  | infinity sign => exact ⟨-sign, rfl⟩
  | zero sign => exact ⟨.positive, by cases sign <;> rfl⟩
  | finite sign mantissa exponent positive => exact ⟨-sign, rfl⟩

/-- What is not greater than a positive number and not less is the number. -/
theorem withSign_eq_of_le_of_not_lt
    {decoded : UnpackedFloat} {mantissa : Nat} {exponent : Int} {positive : 0 < mantissa}
    (atMost : (withSign .positive decoded).le
      (.finite .positive mantissa exponent positive) = true)
    (notLess : (withSign .positive decoded).lt
      (.finite .positive mantissa exponent positive) ≠ true) :
    withSign .positive decoded = .finite .positive mantissa exponent positive := by
  cases decoded with
  | notANumber => cases atMost
  | infinity sign => cases atMost
  | zero sign => exact absurd rfl notLess
  | finite sign otherMantissa otherExponent otherPositive =>
      change ((compare otherExponent exponent).then
        (compare otherMantissa mantissa)).isLE = true at atMost
      change (some ((compare otherExponent exponent).then
        (compare otherMantissa mantissa)) == some Ordering.lt) ≠ true at notLess
      have equal : (compare otherExponent exponent).then
          (compare otherMantissa mantissa) = .eq := by
        revert atMost notLess
        generalize (compare otherExponent exponent).then
          (compare otherMantissa mantissa) = order
        cases order <;> decide
      rw [Ordering.then_eq_eq, Int.compare_eq_eq, Nat.compare_eq_eq] at equal
      obtain ⟨rfl, rfl⟩ := equal
      rfl

theorem unpack_epsilon :
    epsilon.toModel.unpack = .finite .positive 7737125245533627 (-86) (by decide) :=
  rfl

/-- What is not closer to zero than `epsilon` and not farther away lies exactly there. -/
theorem abs_le_epsilon_iff {value : Float} (notCloser : ¬value.abs < epsilon) :
    value.abs ≤ epsilon ↔ value.abs = epsilon := by
  constructor
  · intro within
    have atMost : value.abs.toModel.unpack.le epsilon.toModel.unpack = true :=
      of_decide_eq_true within
    have notLess : value.abs.toModel.unpack.lt epsilon.toModel.unpack ≠ true :=
      fun less => notCloser (decide_eq_true less)
    apply eq_of_unpack_eq
    rw [unpack_abs, unpack_epsilon] at *
    exact withSign_eq_of_le_of_not_lt atMost notLess
  · intro same
    rw [same]
    decide +kernel

/-- A number is as far from zero as zero is from the number. -/
theorem isWithin_zero_comm (tolerance k : Float) :
    Coefficient.isWithin tolerance Coefficient.zero k =
      Coefficient.isWithin tolerance k Coefficient.zero := by
  change decide ((Coefficient.zero - k).abs ≤ tolerance) =
    decide ((k - Coefficient.zero).abs ≤ tolerance)
  rw [abs_sub_zero, abs_zero_sub]

/-- A coefficient worth keeping counts as zero only at the edge of the tolerance. -/
theorem isWithin_zero_iff {k : Float} (significant : Coefficient.isNegligible k = false) :
    Coefficient.isWithin Coefficient.tolerance k Coefficient.zero = true ↔
      k.abs = epsilon := by
  rw [← abs_le_epsilon_iff (of_decide_eq_false significant), ← abs_sub_zero]
  exact decide_eq_true_iff

end Binary64
end PolyMatrix
