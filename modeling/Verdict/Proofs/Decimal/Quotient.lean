import Verdict.Proofs.Decimal.Rounded
/-!
Quotients of integers. A division of binary64 numbers rounds the exact quotient to the nearest number of 53 bits. Of
the quotient of two integers this loses so little that it is rounded up to the same whole number as the exact one.
-/

namespace Verdict.Decimal

open Float.Model Float.Model.UnpackedFloat

/-- A number is rounded to the nearest multiple of a power of two, of which it has 53 bits. -/
def RoundsTo (number result : ℚ) : Prop :=
  ∃ unit : Int, 2 ^ 52 * (2 : ℚ) ^ unit ≤ number ∧ |result - number| ≤ 1 / 2 * 2 ^ unit ∧
    ∀ mantissa : Nat, number = mantissa * 2 ^ unit → result = number

theorem Rounded.roundsTo {number : ℚ} {multiple : Nat} {unit : Int} (rounded : Rounded number multiple unit)
    (normal : 2 ^ (-1022 : Int) ≤ number) : RoundsTo number (multiple * 2 ^ unit) := by
  have positive : (0 : ℚ) < 2 ^ unit := by positivity
  have scaled : multiple * 2 ^ unit - number = (multiple - number / 2 ^ unit) * 2 ^ unit := by
    rw [sub_mul, div_mul_cancel₀ _ positive.ne']
  refine ⟨unit, ?_, ?_, fun mantissa same => ?_⟩
  · obtain full | rfl := rounded.full
    · exact (le_div_iff₀ positive).1 full
    · calc (2 : ℚ) ^ 52 * 2 ^ (-1074 : Int) = 2 ^ (-1022 : Int) := by
            rw [← zpow_natCast, ← zpow_add₀ two_ne_zero]
            rfl
        _ ≤ number := normal
  · rw [scaled, abs_mul, abs_of_pos positive]
    gcongr
    exact rounded.near
  · have near := rounded.near
    rw [same, mul_div_cancel_right₀ _ positive.ne'] at near
    have whole : |(multiple : Int) - mantissa| < 1 := by
      have : |(multiple : ℚ) - mantissa| < 1 := near.trans_lt (by norm_num)
      exact_mod_cast this
    rw [same, Nat.cast_inj.1 (sub_eq_zero.1 (Int.abs_lt_one_iff.1 whole) : (multiple : Int) = mantissa)]

section Division

theorem div_integers_roundsTo {sign sign' : Sign} {mantissa mantissa' whole whole' : Nat} {exponent exponent' : Int}
    (positive : 0 < mantissa) (positive' : 0 < mantissa') (same : (whole : ℚ) = mantissa * 2 ^ exponent)
    (same' : (whole' : ℚ) = mantissa' * 2 ^ exponent') (large : 0 < whole) (large' : 0 < whole')
    (small : whole < 2 ^ 64) (small' : whole' < 2 ^ 64) :
    ∃ result, RoundsTo (whole / whole') result ∧
      Carries (sign / sign') (UnpackedFloat.div .binary64 (.finite sign mantissa exponent positive)
        (.finite sign' mantissa' exponent' positive')) result := by
  obtain ⟨multiple, unit, rounded, carries⟩ := @exists_rounded_div sign sign' _ _ exponent exponent' positive positive'
  rw [← same, ← same'] at rounded carries
  have positive : (0 : ℚ) < whole' := Nat.cast_pos.2 large'
  have least : (2 : ℚ) ^ (-1022 : Int) ≤ whole / whole' := by
    rw [le_div_iff₀ positive]
    calc (2 : ℚ) ^ (-1022 : Int) * whole' ≤ 2 ^ (-64 : Int) * 2 ^ 64 := by
          gcongr
          · norm_num
          · norm_num
          · exact_mod_cast small'.le
      _ = 1 := by norm_num
      _ ≤ whole := by exact_mod_cast large
  have most : (whole : ℚ) / whole' < overflowThreshold := by
    calc (whole : ℚ) / whole' ≤ whole := div_le_self (Nat.cast_nonneg whole) (by exact_mod_cast large')
      _ ≤ 2 ^ 64 := by exact_mod_cast small.le
      _ ≤ 2 ^ 1023 := pow_le_pow_right₀ (by norm_num) (by norm_num)
      _ < overflowThreshold := two_pow_lt_overflowThreshold
  exact ⟨_, rounded.roundsTo least, carries most⟩

section Stands

variable {left right : UnpackedFloat} {integer : Int} {divisor : Nat}

theorem Stands.zero_div (stands : Stands left 0) (stands' : Stands right divisor) (positive : 0 < divisor) :
    Stands (UnpackedFloat.div .binary64 left right) 0 := by
  generalize same : (0 : ℚ) = amount at stands
  generalize same' : (divisor : ℚ) = amount' at stands'
  cases stands' with
  | zero => exact absurd same' (Nat.cast_pos.2 positive).ne'
  | positive | negative =>
    cases stands with
    | zero => exact .zero _
    | positive pos => exact absurd same (by positivity : (0 : ℚ) < _).ne
    | negative pos => exact absurd same (neg_neg_of_pos (by positivity)).ne'

/-- The quotient of two integers of 64 bits is the exact one, rounded, with the sign of the dividend. -/
theorem Stands.exists_div (stands : Stands left integer) (stands' : Stands right divisor) (nonzero : integer ≠ 0)
    (small : integer.natAbs < 2 ^ 64) (positive' : 0 < divisor) (small' : divisor < 2 ^ 64) :
    ∃ result : ℚ, RoundsTo (integer.natAbs / divisor) result ∧
      Stands (UnpackedFloat.div .binary64 left right) (integer.sign * result) := by
  have large : 0 < integer.natAbs := Int.natAbs_pos.2 nonzero
  generalize same : (integer : ℚ) = amount at stands
  generalize same' : (divisor : ℚ) = amount' at stands'
  have magnitude : (integer.natAbs : ℚ) = |amount| := by rw [Nat.cast_natAbs, Int.cast_abs, same]
  cases stands' with
  | zero => exact absurd same' (Nat.cast_pos.2 positive').ne'
  | negative pos' =>
    have negative : (divisor : ℚ) < 0 := same' ▸ neg_neg_of_pos (by positivity)
    exact absurd negative (Nat.cast_nonneg divisor).not_gt
  | positive pos' _ =>
    rw [← same']
    cases stands with
    | zero => exact absurd same (Int.cast_ne_zero.2 nonzero)
    | @positive mantissa exponent pos _ =>
      have above : (0 : ℚ) < mantissa * 2 ^ exponent := by positivity
      have sign : integer.sign = 1 := Int.sign_eq_one_of_pos (Int.cast_pos.1 (same ▸ above))
      rw [abs_of_pos above] at magnitude
      obtain ⟨result, rounds, carries⟩ :=
        @div_integers_roundsTo .positive .positive _ _ _ _ _ _ pos pos' magnitude same' large positive' small small'
      refine ⟨result, rounds, ?_⟩
      rw [sign, Int.cast_one, one_mul]
      exact carries.stands
    | @negative mantissa exponent pos _ =>
      have above : (0 : ℚ) < mantissa * 2 ^ exponent := by positivity
      have sign : integer.sign = -1 :=
        Int.sign_eq_neg_one_of_neg (Int.cast_lt_zero.1 (same ▸ neg_neg_of_pos above))
      rw [abs_neg, abs_of_pos above] at magnitude
      obtain ⟨result, rounds, carries⟩ :=
        @div_integers_roundsTo .negative .positive _ _ _ _ _ _ pos pos' magnitude same' large positive' small small'
      refine ⟨result, rounds, ?_⟩
      rw [sign, Int.cast_neg, Int.cast_one, neg_one_mul]
      exact carries.stands_neg

end Stands

end Division

section Ceiling

theorem floor_ceil_of_lt {number : ℚ} {below : Int} (above : (below : ℚ) < number) (less : number < below + 1) :
    ⌊number⌋ = below ∧ ⌈number⌉ = below + 1 := by
  refine ⟨Int.floor_eq_iff.2 ⟨above.le, less⟩, Int.ceil_eq_iff.2 ⟨?_, ?_⟩⟩
  · push_cast
    linarith
  · push_cast
    exact less.le

variable {number divisor : Nat} {result : ℚ}

/-- A whole quotient of 53 bits is not changed. -/
theorem RoundsTo.eq_of_whole {whole : Nat} (rounds : RoundsTo whole result) (short : whole < 2 ^ 53) :
    result = whole := by
  obtain ⟨unit, least, -, exact⟩ := rounds
  have small : (2 : ℚ) ^ (52 + unit) < 2 ^ (53 : Int) := by
    rw [zpow_add₀ two_ne_zero]
    calc (2 : ℚ) ^ (52 : Int) * 2 ^ unit ≤ whole := least
      _ < 2 ^ (53 : Int) := by exact_mod_cast short
  have noUnit := (zpow_lt_zpow_iff_right₀ (by norm_num : (1 : ℚ) < 2)).1 small
  obtain ⟨places, rfl⟩ := Int.exists_eq_neg_ofNat (show unit ≤ 0 by omega)
  refine exact (whole * 2 ^ places) ?_
  push_cast
  rw [zpow_neg, zpow_natCast, mul_inv_cancel_right₀ (by positivity)]

/-- A quotient is rounded to a number between the same whole numbers: one that is not whole is at least one part away
from them, and rounding moves it by less. -/
theorem RoundsTo.floor_ceil (rounds : RoundsTo (number / divisor) result) (positive : 0 < divisor)
    (short : number < 2 ^ 53) :
    ⌊result⌋ = ⌊(number / divisor : ℚ)⌋ ∧ ⌈result⌉ = ⌈(number / divisor : ℚ)⌉ := by
  have positive' : (0 : ℚ) < divisor := Nat.cast_pos.2 positive
  by_cases divides : divisor ∣ number
  · obtain ⟨whole, rfl⟩ := divides
    rw [Nat.cast_mul, mul_div_cancel_left₀ _ positive'.ne'] at rounds ⊢
    rw [rounds.eq_of_whole ((Nat.le_mul_of_pos_left whole positive).trans_lt short)]
    exact ⟨rfl, rfl⟩
  · obtain ⟨unit, least, near, -⟩ := rounds
    have rest : 1 ≤ number % divisor := Nat.pos_of_ne_zero fun none => divides (Nat.dvd_of_mod_eq_zero none)
    have rest' : number % divisor + 1 ≤ divisor := Nat.mod_lt number positive
    have split : (number : ℚ) / divisor = (number / divisor : Nat) + ((number % divisor : Nat) : ℚ) / divisor := by
      rw [← mul_div_cancel_right₀ ((number / divisor : Nat) : ℚ) positive'.ne', ← add_div]
      congr 1
      exact_mod_cast (Nat.div_add_mod' number divisor).symm
    generalize number / divisor = whole at split
    generalize number % divisor = remainder at split rest rest'
    have above : (1 : ℚ) / divisor ≤ remainder / divisor := by
      gcongr
      exact_mod_cast rest
    have below : (remainder : ℚ) / divisor ≤ 1 - 1 / divisor := by
      rw [le_sub_iff_add_le, ← add_div, div_le_one positive']
      exact_mod_cast rest'
    have part : (0 : ℚ) < 1 / divisor := by positivity
    have moved : |result - number / divisor| < 1 / divisor := by
      have shorter : (number : ℚ) / divisor < 2 ^ 53 * (1 / divisor) := by
        rw [mul_one_div]
        gcongr
        exact_mod_cast short
      linarith
    obtain ⟨left, right⟩ := abs_lt.1 moved
    have exact := @floor_ceil_of_lt (number / divisor) whole (by push_cast; linarith) (by push_cast; linarith)
    have rounded := @floor_ceil_of_lt result whole (by push_cast; linarith) (by push_cast; linarith)
    exact ⟨rounded.1.trans exact.1.symm, rounded.2.trans exact.2.symm⟩

end Ceiling

namespace Binary

theorem ceiling_eq (number : Binary) : number.ceiling = ⌈number.value⌉ := by
  have positive : 0 < number.denominator := Nat.two_pow_pos _
  have positive' : (0 : ℚ) < number.denominator := Nat.cast_pos.2 positive
  rw [ceiling, value, magnitude_eq_div]
  split
  · rw [Int.ceil_neg, Rat.floor_natCast_div_natCast]
    rfl
  · symm
    have parts := Nat.div_add_mod (number.numerator + number.denominator - 1) number.denominator
    have rest := Nat.mod_lt (number.numerator + number.denominator - 1) positive
    generalize (number.numerator + number.denominator - 1) / number.denominator = above at *
    generalize (number.numerator + number.denominator - 1) % number.denominator = remainder at *
    have whole : (number.numerator : ℚ) + number.denominator = number.denominator * above + remainder + 1 := by
      exact_mod_cast (by omega : number.numerator + number.denominator = number.denominator * above + remainder + 1)
    have rest' : (remainder : ℚ) + 1 ≤ number.denominator := by exact_mod_cast rest
    rw [Int.ceil_eq_iff, lt_div_iff₀ positive', div_le_iff₀ positive']
    push_cast
    constructor <;> nlinarith

end Binary

/-- The quotient of two integers is rounded up to the same whole number as the exact one, if it has at most 53 bits in
units of a common divisor. -/
theorem ceiling_div {left right : Float} {number : Int} {divisor common : Nat} (finite : left.isFinite = true)
    (finite' : right.isFinite = true) (value : (Binary.ofFloat left).value = number)
    (value' : (Binary.ofFloat right).value = divisor) (positive : 0 < divisor) (divides : common ∣ number.natAbs)
    (divides' : common ∣ divisor) (short : number.natAbs < 2 ^ 53 * common) (small : number.natAbs < 2 ^ 64)
    (small' : divisor < 2 ^ 64) : (Binary.ofFloat (left / right)).ceiling = ⌈(number : ℚ) / divisor⌉ := by
  have stands := stands_unpack finite
  have stands' := stands_unpack finite'
  rw [value] at stands
  rw [value'] at stands'
  have packed {result : ℚ} (quotient : Stands (UnpackedFloat.div .binary64 left.toModel.unpack right.toModel.unpack)
      result) : (Binary.ofFloat (left / right)).value = result :=
    (Stands.value_eq quotient.pack).2
  rw [Binary.ceiling_eq]
  by_cases zero : number = 0
  · rw [zero, Int.cast_zero] at stands ⊢
    rw [zero_div, packed (stands.zero_div stands' positive)]
  · obtain ⟨result, rounds, quotient⟩ := stands.exists_div stands' zero small positive small'
    have rounded : ⌊result⌋ = ⌊(number.natAbs / divisor : ℚ)⌋ ∧ ⌈result⌉ = ⌈(number.natAbs / divisor : ℚ)⌉ := by
      obtain ⟨parts, whole⟩ := divides
      obtain ⟨parts', rfl⟩ := divides'
      rw [whole] at rounds short ⊢
      have common_pos : 0 < common := Nat.pos_of_mul_pos_right positive
      push_cast at rounds ⊢
      rw [mul_div_mul_left _ _ (Nat.cast_ne_zero.2 common_pos.ne')] at rounds ⊢
      exact rounds.floor_ceil (Nat.pos_of_mul_pos_left positive)
        (Nat.lt_of_mul_lt_mul_left (by rwa [Nat.mul_comm (2 ^ 53)] at short))
    have magnitude : (number.natAbs : ℚ) = |(number : ℚ)| := by rw [Nat.cast_natAbs, Int.cast_abs]
    rw [packed quotient]
    obtain negative | positive := lt_or_gt_of_ne zero
    · rw [magnitude, abs_of_neg (Int.cast_lt_zero.2 negative), neg_div] at rounded
      rw [Int.sign_eq_neg_one_of_neg negative, Int.cast_neg, Int.cast_one, neg_one_mul, Int.ceil_neg, rounded.1,
        Int.floor_neg, neg_neg]
    · rw [magnitude, abs_of_pos (Int.cast_pos.2 positive)] at rounded
      rw [Int.sign_eq_one_of_pos positive, Int.cast_one, one_mul, rounded.2]

end Verdict.Decimal
