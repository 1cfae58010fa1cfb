import Verdict.Decimal.Rational
import Verdict.Proofs.Decimal.Parts
/-!
The rational number that the parts of a binary64 number stand for. Its parts are the only ones that a number can
have, so comparing exponents before mantissas is comparing values, and the tests on finite numbers are those on
their values.
-/

namespace Verdict.Decimal

open Float.Model Float.Model.UnpackedFloat

namespace Binary

theorem magnitude_of_mantissa_eq_zero {number : Binary} (zero : number.mantissa = 0) :
    number.magnitude = 0 := by
  rw [magnitude, zero, Nat.cast_zero, zero_mul]

theorem magnitude_eq_div (number : Binary) :
    number.magnitude = (number.numerator : ℚ) / (number.denominator : ℚ) := by
  have whole : (number.exponent.toNat : ℤ) - ((-number.exponent).toNat : ℤ) = number.exponent := by omega
  rw [magnitude, numerator, denominator]
  change (_ : ℚ) = ((number.mantissa * 2 ^ number.exponent.toNat : Nat) : ℚ) /
    ((2 ^ (-number.exponent).toNat : Nat) : ℚ)
  push_cast
  rw [mul_div_assoc, ← zpow_natCast, ← zpow_natCast, ← zpow_sub₀ (by norm_num : (2 : ℚ) ≠ 0), whole]

theorem abs_value (number : Binary) : |number.value| = number.magnitude := by
  have nonneg : 0 ≤ number.magnitude := by
    rw [magnitude]
    positivity
  rw [value]
  split
  · rw [abs_neg, abs_of_nonneg nonneg]
  · exact abs_of_nonneg nonneg

/-- Nothing is cut off from a number without fraction. -/
theorem value_eq_truncate {number : Binary} (whole : number.isWhole = true) :
    number.value = (number.truncate : ℚ) := by
  have divides : number.denominator ∣ number.numerator :=
    Nat.dvd_of_mod_eq_zero (by simpa [isWhole] using whole)
  have nonzero : (number.denominator : ℚ) ≠ 0 := Nat.cast_ne_zero.mpr (Nat.two_pow_pos _).ne'
  have quotient : number.magnitude = ((number.numerator / number.denominator : Nat) : ℚ) := by
    rw [magnitude_eq_div, Nat.cast_div divides nonzero]
  rw [value, truncate, signed, quotient]
  split
  · push_cast
    rfl
  · exact (Int.cast_natCast _).symm

section Order

variable {mantissa mantissa' : Nat} {exponent exponent' : Int}

/-- Of two numbers with parts that fit, the one with the smaller exponent is smaller. -/
theorem magnitude_lt_of_exponent_lt (fits : Fits mantissa exponent) (fits' : Fits mantissa' exponent')
    (smaller : exponent < exponent') : (mantissa * 2 ^ exponent : ℚ) < mantissa' * 2 ^ exponent' := by
  have full : 2 ^ 52 ≤ mantissa' := fits'.full.resolve_right (by have := fits.le_exponent; omega)
  have below : (mantissa : ℚ) < 2 ^ 53 := by exact_mod_cast fits.mantissa_lt
  have above : (2 ^ 52 : ℚ) ≤ mantissa' := by exact_mod_cast full
  calc (mantissa : ℚ) * 2 ^ exponent < 2 ^ 53 * 2 ^ exponent := by gcongr
    _ = 2 ^ 52 * 2 ^ (exponent + 1) := by rw [zpow_add_one₀ (by norm_num : (2 : ℚ) ≠ 0)]; ring
    _ ≤ 2 ^ 52 * 2 ^ exponent' := by
      gcongr
      · norm_num
      · omega
    _ ≤ mantissa' * 2 ^ exponent' := by gcongr

theorem compare_magnitude (fits : Fits mantissa exponent) (fits' : Fits mantissa' exponent') :
    (compare exponent exponent').then (compare mantissa mantissa') =
      compare (mantissa * 2 ^ exponent : ℚ) (mantissa' * 2 ^ exponent') := by
  obtain smaller | rfl | greater := lt_trichotomy exponent exponent'
  · rw [compare_lt_iff_lt.2 smaller, compare_lt_iff_lt.2 (magnitude_lt_of_exponent_lt fits fits' smaller)]
    rfl
  · have positive : (0 : ℚ) < 2 ^ exponent := by positivity
    rw [compare_eq_iff_eq.2 rfl, Ordering.eq_then]
    obtain smaller | rfl | greater := lt_trichotomy mantissa mantissa'
    · rw [compare_lt_iff_lt.2 smaller, compare_lt_iff_lt.2]
      exact mul_lt_mul_of_pos_right (Nat.cast_lt.mpr smaller) positive
    · rw [compare_eq_iff_eq.2 rfl, compare_eq_iff_eq.2 rfl]
    · rw [compare_gt_iff_gt.2 greater, compare_gt_iff_gt.2]
      exact mul_lt_mul_of_pos_right (Nat.cast_lt.mpr greater) positive
  · rw [compare_gt_iff_gt.2 greater, compare_gt_iff_gt.2 (magnitude_lt_of_exponent_lt fits' fits greater)]
    rfl

end Order

theorem value_of_mantissa_eq_zero {number : Binary} (zero : number.mantissa = 0) : number.value = 0 := by
  rw [value, magnitude_of_mantissa_eq_zero zero, neg_zero, ite_self]

end Binary

/-- A finite number is a zero, or parts that fit with one of the two signs. -/
inductive Stands : UnpackedFloat → ℚ → Prop
  | zero (sign : Sign) : Stands (.zero sign) 0
  | positive {mantissa : Nat} {exponent : Int} (pos : 0 < mantissa) (fits : Binary.Fits mantissa exponent) :
    Stands (.finite .positive mantissa exponent pos) (mantissa * 2 ^ exponent)
  | negative {mantissa : Nat} {exponent : Int} (pos : 0 < mantissa) (fits : Binary.Fits mantissa exponent) :
    Stands (.finite .negative mantissa exponent pos) (-(mantissa * 2 ^ exponent))

theorem stands_unpack {value : Float} (finite : value.isFinite = true) :
    Stands value.toModel.unpack (Binary.ofFloat value).value := by
  have fits := fits_of_isFinite finite
  rw [unpack_of_isFinite finite]
  generalize Binary.ofFloat value = number at fits ⊢
  by_cases zero : number.mantissa = 0
  · rw [dif_pos zero, Binary.value_of_mantissa_eq_zero zero]
    exact .zero _
  · rw [dif_neg zero]
    obtain ⟨negative, mantissa, exponent⟩ := number
    cases negative with
    | true => exact .negative (Nat.pos_of_ne_zero zero) fits
    | false => exact .positive (Nat.pos_of_ne_zero zero) fits

theorem compare_neg (left right : ℚ) : compare (-left) (-right) = (compare left right).swap := by
  obtain smaller | rfl | greater := lt_trichotomy left right
  · rw [compare_lt_iff_lt.2 smaller, compare_gt_iff_gt.2 (neg_lt_neg smaller)]
    rfl
  · rw [compare_eq_iff_eq.2 rfl, compare_eq_iff_eq.2 rfl]
    rfl
  · rw [compare_gt_iff_gt.2 greater, compare_lt_iff_lt.2 (neg_lt_neg greater)]
    rfl

/-- Numbers compare as the values that they stand for. -/
theorem Stands.compare {left right : UnpackedFloat} {value value' : ℚ} (stands : Stands left value)
    (stands' : Stands right value') : left.compare right = some (compare value value') := by
  have magnitude_pos {mantissa : Nat} (exponent : Int) (pos : 0 < mantissa) :
      (0 : ℚ) < mantissa * 2 ^ exponent := by positivity
  cases stands with
  | zero =>
    cases stands' with
    | zero => rw [compare_eq_iff_eq.2 rfl]; rfl
    | positive pos => rw [compare_lt_iff_lt.2 (magnitude_pos _ pos)]; rfl
    | negative pos => rw [compare_gt_iff_gt.2 (neg_neg_of_pos (magnitude_pos _ pos))]; rfl
  | positive pos fits =>
    cases stands' with
    | zero => rw [compare_gt_iff_gt.2 (magnitude_pos _ pos)]; rfl
    | positive pos' fits' => rw [← Binary.compare_magnitude fits fits']; rfl
    | negative pos' =>
      rw [compare_gt_iff_gt.2 ((neg_neg_of_pos (magnitude_pos _ pos')).trans (magnitude_pos _ pos))]
      rfl
  | negative pos fits =>
    cases stands' with
    | zero => rw [compare_lt_iff_lt.2 (neg_neg_of_pos (magnitude_pos _ pos))]; rfl
    | positive pos' =>
      rw [compare_lt_iff_lt.2 ((neg_neg_of_pos (magnitude_pos _ pos)).trans (magnitude_pos _ pos'))]
      rfl
    | negative pos' fits' => rw [compare_neg, ← Binary.compare_magnitude fits fits']; rfl

theorem Stands.unique {unpacked : UnpackedFloat} {value value' : ℚ} (stands : Stands unpacked value)
    (stands' : Stands unpacked value') : value = value' := by
  have orders := (stands.compare stands).symm.trans (stands.compare stands')
  rw [compare_eq_iff_eq.2 rfl] at orders
  exact compare_eq_iff_eq.1 (Option.some.inj orders).symm

theorem Stands.neg {unpacked : UnpackedFloat} {value : ℚ} (stands : Stands unpacked value) :
    Stands unpacked.neg (-value) := by
  cases stands with
  | zero sign => rw [neg_zero]; exact .zero _
  | positive pos fits => exact .negative pos fits
  | negative pos fits => rw [neg_neg]; exact .positive pos fits

/-- Packing into bits loses nothing of a finite number. -/
theorem Stands.pack {unpacked : UnpackedFloat} {value : ℚ} (stands : Stands unpacked value) :
    Stands (Float.ofModel (Float.Model.pack unpacked)).toModel.unpack value := by
  change Stands (Float.Model.pack unpacked).unpack value
  cases stands with
  | zero sign =>
    have same : (Float.Model.pack (.zero sign)).unpack = .zero sign := unpack_packedZero
    rw [same]
    exact .zero sign
  | positive pos fits => rw [unpack_pack fits]; exact .positive pos fits
  | negative pos fits => rw [unpack_pack fits]; exact .negative pos fits

/-- A number that stands for a value is finite and has this value. -/
theorem Stands.value_eq {number : Float} {value : ℚ} (stands : Stands number.toModel.unpack value) :
    number.isFinite = true ∧ (Binary.ofFloat number).value = value := by
  have finite : number.isFinite = true := by
    change number.toModel.unpack.isFinite = true
    cases unpacked : number.toModel.unpack <;> rw [unpacked] at stands <;> cases stands <;> rfl
  exact ⟨finite, (stands_unpack finite).unique stands⟩

section Comparison

variable {left right : Float} (finiteLeft : left.isFinite = true) (finiteRight : right.isFinite = true)

include finiteLeft finiteRight

theorem compare_unpack :
    left.toModel.unpack.compare right.toModel.unpack =
      some (compare (Binary.ofFloat left).value (Binary.ofFloat right).value) :=
  (stands_unpack finiteLeft).compare (stands_unpack finiteRight)

theorem lt_iff_value_lt : left < right ↔ (Binary.ofFloat left).value < (Binary.ofFloat right).value := by
  change decide (UnpackedFloat.lt left.toModel.unpack right.toModel.unpack = true) = true ↔ _
  rw [decide_eq_true_iff, UnpackedFloat.lt, compare_unpack finiteLeft finiteRight, beq_iff_eq, Option.some_inj,
    compare_lt_iff_lt]

theorem le_iff_value_le : left ≤ right ↔ (Binary.ofFloat left).value ≤ (Binary.ofFloat right).value := by
  change decide (UnpackedFloat.le left.toModel.unpack right.toModel.unpack = true) = true ↔ _
  rw [decide_eq_true_iff, UnpackedFloat.le, compare_unpack finiteLeft finiteRight, Option.any_some,
    Ordering.isLE_iff_ne_gt, compare_gt_iff_gt, not_lt]

theorem beq_iff_value_eq :
    (left == right) = true ↔ (Binary.ofFloat left).value = (Binary.ofFloat right).value := by
  change UnpackedFloat.beq left.toModel.unpack right.toModel.unpack = true ↔ _
  rw [UnpackedFloat.beq, compare_unpack finiteLeft finiteRight, beq_iff_eq, Option.some_inj, compare_eq_iff_eq]

end Comparison

end Verdict.Decimal
