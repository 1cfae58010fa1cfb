import Verdict.Json.Basic
import Verdict.Proofs.Decimal.Conversion
/-!
The values of JSON numbers, and the values by which they are compared. The two are the same for binary64 numbers and
for the integers that binary64 can hold; so numbers of one value never compare as different, but different integers
may compare as one number.
-/

namespace Verdict.Number

open Decimal (Binary nearest)

/-- The value of a number. -/
def value : Number → ℚ
  | .integer value _ => value
  | .float value => (Binary.ofFloat value.value).value

/-- The value by which a number is compared: an integer loses what binary64 has no room for. -/
def weight : Number → ℚ
  | .integer value _ => nearest value
  | .float value => (Binary.ofFloat value.value).value

theorem natAbs_lt {value : Int} (fits : -9223372036854775808 ≤ value ∧ value < 18446744073709551616) :
    value.natAbs < 2 ^ 64 := by
  omega

theorem isFinite_toFloat (number : Number) : number.toFloat.isFinite = true := by
  cases number with
  | integer value fits => exact (Decimal.value_ofInt (natAbs_lt fits)).1
  | float value => exact value.finite

theorem value_toFloat (number : Number) : (Binary.ofFloat number.toFloat).value = number.weight := by
  cases number with
  | integer value fits => exact (Decimal.value_ofInt (natAbs_lt fits)).2
  | float value => rfl

section Comparison

variable (left right : Number)

theorem toFloat_beq_iff : (left.toFloat == right.toFloat) = true ↔ left.weight = right.weight := by
  rw [Decimal.beq_iff_value_eq left.isFinite_toFloat right.isFinite_toFloat, value_toFloat, value_toFloat]

theorem toFloat_lt_iff : left.toFloat < right.toFloat ↔ left.weight < right.weight := by
  rw [Decimal.lt_iff_value_lt left.isFinite_toFloat right.isFinite_toFloat, value_toFloat, value_toFloat]

theorem toFloat_le_iff : left.toFloat ≤ right.toFloat ↔ left.weight ≤ right.weight := by
  rw [Decimal.le_iff_value_le left.isFinite_toFloat right.isFinite_toFloat, value_toFloat, value_toFloat]

end Comparison

/-- Numbers of one value. -/
def Equal (left right : Number) : Prop :=
  left.value = right.value

/-- Numbers that are compared by one value. -/
def Level (left right : Number) : Prop :=
  left.weight = right.weight

/-- Numbers of one value are compared by one value, too. -/
theorem Equal.level {left right : Number} (equal : Equal left right) : Level left right := by
  cases left with
  | integer value fits =>
    cases right with
    | integer value' fits' =>
      obtain rfl : value = value' := Int.cast_inj.1 equal
      rfl
    | float number =>
      have kept := Decimal.nearest_of_eq_value number.finite equal
      rw [Level, weight, kept]
      exact equal
  | float number =>
    cases right with
    | integer value fits =>
      have kept := Decimal.nearest_of_eq_value number.finite equal.symm
      rw [Level, weight, weight, kept]
      exact equal
    | float number' => exact equal

end Verdict.Number
