import Verdict.Decimal.Numeral
import Verdict.Proofs.Decimal.Nearness
/-!
Numerals are read as the nearest binary64 number. A short significand and a small power of ten are numbers of binary64,
and their product or quotient is rounded once; otherwise this is done with the integers themselves.
-/

namespace Verdict.Decimal

open Float.Model Float.Model.UnpackedFloat

/-- A positive number, or zero, that a number is rounded to. -/
def IsRounding (unpacked : UnpackedFloat) (number : ℚ) : Prop :=
  ∃ (multiple : Nat) (unit : Int), Rounded number multiple unit ∧ Carries .positive unpacked (multiple * 2 ^ unit)

section Operations

variable {number : ℚ} {significand mantissa mantissa' : Nat} {exponent exponent' : Int}

theorem isRounding_zero (nonneg : 0 ≤ number) (tiny : number < 2 ^ (-1075 : Int)) :
    IsRounding (.zero .positive) number := by
  have half : (2 : ℚ) ^ (-1075 : Int) = 1 / 2 * 2 ^ (-1074 : Int) := by
    rw [one_div, ← zpow_neg_one, ← zpow_add₀ two_ne_zero]
    rfl
  have scaled : number / 2 ^ (-1074 : Int) < 1 / 2 := by
    rwa [div_lt_iff₀ (by positivity), ← half]
  have scaled' : 0 ≤ number / 2 ^ (-1074 : Int) := by positivity
  refine ⟨0, -1074, ⟨?_, fun _ => .zero, le_rfl, .inr rfl, scaled.trans (by norm_num)⟩, ?_⟩
  · rw [Nat.cast_zero, zero_sub, abs_neg, abs_of_nonneg scaled']
    exact scaled.le
  · rw [Nat.cast_zero, zero_mul]
    exact .zero

theorem isRounding_mul {positive : 0 < mantissa} {positive' : 0 < mantissa'} (long : 2 ^ 52 ≤ mantissa * mantissa')
    (product : number = mantissa * 2 ^ exponent * (mantissa' * 2 ^ exponent')) (small : number < overflowThreshold) :
    IsRounding (UnpackedFloat.mul .binary64 (.finite .positive mantissa exponent positive)
      (.finite .positive mantissa' exponent' positive')) number := by
  obtain ⟨multiple, unit, rounded, carries⟩ :=
    @exists_rounded_mul .positive .positive _ _ exponent exponent' positive positive'
      ((Nat.le_log2 (Nat.mul_pos positive positive').ne').2 long)
  rw [← product] at rounded carries
  exact ⟨multiple, unit, rounded, carries small⟩

theorem isRounding_div {positive : 0 < mantissa} {positive' : 0 < mantissa'}
    (quotient : number = mantissa * 2 ^ exponent / (mantissa' * 2 ^ exponent')) (small : number < overflowThreshold) :
    IsRounding (UnpackedFloat.div .binary64 (.finite .positive mantissa exponent positive)
      (.finite .positive mantissa' exponent' positive')) number := by
  obtain ⟨multiple, unit, rounded, carries⟩ :=
    @exists_rounded_div .positive .positive _ _ exponent exponent' positive positive'
  rw [← quotient] at rounded carries
  exact ⟨multiple, unit, rounded, carries small⟩

theorem Carries.unpack_pack {sign : Sign} {unpacked : UnpackedFloat} {value : ℚ}
    (carries : Carries sign unpacked value) : (Float.Model.pack unpacked).unpack = unpacked := by
  cases carries with
  | zero => exact unpack_packedZero
  | finite _ fits => exact Decimal.unpack_pack fits

theorem IsRounding.pack {unpacked : UnpackedFloat} (rounding : IsRounding unpacked number) :
    IsRounding (Float.ofModel (Float.Model.pack unpacked)).toModel.unpack number := by
  obtain ⟨multiple, unit, rounded, carries⟩ := rounding
  refine ⟨multiple, unit, rounded, ?_⟩
  change Carries .positive (Float.Model.pack unpacked).unpack _
  rw [carries.unpack_pack]
  exact carries

/-- A huge power of ten is too large whatever it is multiplied with. -/
theorem exponent_le_of_lt (positive : 0 < significand) (small : significand * (10 : ℚ) ^ exponent < overflowThreshold) :
    exponent ≤ 2048 := by
  by_contra! huge
  refine small.not_ge ?_
  have least : (1 : ℚ) ≤ significand := by exact_mod_cast positive
  calc overflowThreshold ≤ 2 ^ 1024 := sub_le_self _ (by positivity)
    _ = 2 ^ (1024 : Int) := rfl
    _ ≤ 2 ^ exponent := zpow_le_zpow_right₀ (by norm_num) (by omega)
    _ ≤ 10 ^ exponent := zpow_le_zpow_left₀ (by omega) (by norm_num) (by norm_num)
    _ ≤ significand * 10 ^ exponent := le_mul_of_one_le_left (by positivity) least

/-- A number with more decimals than 2048 and its bits together is too small. -/
theorem lt_of_exponent_lt (low : exponent < -(2048 + (significand.log2 : Int))) :
    significand * (10 : ℚ) ^ exponent < 2 ^ (-1075 : Int) := by
  obtain ⟨places, rfl⟩ := Int.exists_eq_neg_ofNat (show exponent ≤ 0 by omega)
  calc significand * (10 : ℚ) ^ (-(places : Int)) ≤ significand * 2 ^ (-(places : Int)) := by
        rw [zpow_neg, zpow_neg, zpow_natCast, zpow_natCast]
        gcongr
        norm_num
    _ < 2 ^ (significand.log2 + 1) * 2 ^ (-(places : Int)) := by
        gcongr
        exact_mod_cast Nat.lt_log2_self
    _ = 2 ^ ((significand.log2 + 1 : Nat) + -(places : Int)) := by
        rw [zpow_add₀ two_ne_zero, zpow_natCast]
    _ ≤ 2 ^ (-1075 : Int) := zpow_le_zpow_right₀ (by norm_num) (by omega)

/-- The product or the quotient of the integers is rounded, unless the exponent already decides. -/
theorem isRounding_ofScientific (small : significand * (10 : ℚ) ^ exponent < overflowThreshold) :
    IsRounding (UnpackedFloat.ofScientific .binary64 significand exponent) (significand * (10 : ℚ) ^ exponent) := by
  rw [UnpackedFloat.ofScientific]
  obtain rfl | positive := Nat.eq_zero_or_pos significand
  · rw [dif_pos rfl, Nat.cast_zero, zero_mul]
    exact isRounding_zero le_rfl (by positivity)
  · have notHuge : ¬ exponent > 2 ^ Format.binary64.exponentBits := by
      have := exponent_le_of_lt positive small
      change ¬ exponent > 2048
      omega
    rw [dif_neg positive.ne', if_neg notHuge]
    split
    · rename_i low
      exact isRounding_zero (by positivity) (lt_of_exponent_lt low)
    · split
      · rename_i nonneg
        refine isRounding_mul ?_ ?_ small
        · rw [Nat.shiftLeft_eq]
          calc 2 ^ 52 ≤ 1 * 2 ^ 53 * 1 := by decide
            _ ≤ significand * 2 ^ 53 * 10 ^ exponent.toNat :=
              Nat.mul_le_mul (Nat.mul_le_mul_right _ positive) (Nat.pow_pos (by decide))
        · obtain ⟨places, rfl⟩ := Int.eq_ofNat_of_zero_le nonneg
          rw [Nat.shiftLeft_eq, mul_two_pow_mul_zpow_neg, Int.toNat_natCast, zpow_zero, mul_one, zpow_natCast]
          push_cast
          rfl
      · rename_i negative
        refine isRounding_div ?_ small
        obtain ⟨places, rfl⟩ := Int.exists_eq_neg_ofNat (show exponent ≤ 0 by omega)
        rw [neg_neg, Int.toNat_natCast, zpow_zero, mul_one, mul_one, zpow_neg, zpow_natCast, div_eq_mul_inv]
        push_cast
        rfl

section Words

variable (positive : 0 < significand) (short : significand < 2 ^ 53)

include positive short

theorem unpack_toFloat : significand.toUInt64.toFloat.toModel.unpack =
    .finite .positive (significand * 2 ^ (52 - significand.log2)) (-(52 - significand.log2 : Nat))
      (Nat.mul_pos positive (Nat.two_pow_pos _)) := by
  change (Float.Model.pack
    (UnpackedFloat.normalize .binary64 (significand.toUInt64.toNat : Int) 0 .positive)).unpack = _
  rw [toNat_toUInt64 short, UnpackedFloat.normalize, compare_gt_iff_gt.2 (Int.natCast_pos.mpr positive)]
  change (Float.Model.pack (UnpackedFloat.round .binary64 .positive significand 0)).unpack = _
  rw [round_of_lt positive short]
  exact unpack_pack (fits_of_lt positive short)

end Words

/-- The powers of ten up to the twenty-second are exact. -/
theorem exists_unpack_power (power : Fin 23) :
    ∃ (mantissa : Nat) (exponent : Int) (full : 2 ^ 52 ≤ mantissa),
      Float.exactlyRepresentablePowersOfTen[power].toModel.unpack =
        .finite .positive mantissa exponent (Nat.lt_of_lt_of_le (by decide) full) ∧
      (10 : ℚ) ^ power.val = mantissa * 2 ^ exponent := by
  have table : ∀ power : Fin 23, Float.exactlyRepresentablePowersOfTen[power].isFinite = true ∧
      2 ^ 52 ≤ (Binary.ofFloat Float.exactlyRepresentablePowersOfTen[power]).mantissa ∧
      (Binary.ofFloat Float.exactlyRepresentablePowersOfTen[power]).negative = false ∧
      (Binary.ofFloat Float.exactlyRepresentablePowersOfTen[power]).numerator =
        10 ^ power.val * (Binary.ofFloat Float.exactlyRepresentablePowersOfTen[power]).denominator := by
    decide +kernel
  obtain ⟨finite, full, positive, value⟩ := table power
  refine ⟨_, (Binary.ofFloat Float.exactlyRepresentablePowersOfTen[power]).exponent, full, ?_, ?_⟩
  · rw [unpack_of_mantissa_pos finite (Nat.lt_of_lt_of_le (by decide) full)]
    exact finite_congr (by rw [Binary.sign, positive]; rfl) rfl rfl
  · rw [← Binary.magnitude, Binary.magnitude_eq_div, value]
    push_cast
    rw [mul_div_cancel_right₀]
    exact Nat.cast_ne_zero.2 (Nat.two_pow_pos _).ne'

theorem isRounding_toFloat_mul (short : significand < 2 ^ 53) (power : Fin 23)
    (small : (significand : ℚ) * 10 ^ power.val < overflowThreshold) :
    IsRounding (significand.toUInt64.toFloat * Float.exactlyRepresentablePowersOfTen[power]).toModel.unpack
      (significand * 10 ^ power.val) := by
  obtain ⟨mantissa, exponent, full, unpacked, value⟩ := exists_unpack_power power
  change IsRounding (Float.ofModel (Float.Model.pack (UnpackedFloat.mul .binary64
    significand.toUInt64.toFloat.toModel.unpack _))).toModel.unpack _
  apply IsRounding.pack
  rw [unpacked]
  obtain rfl | positive := Nat.eq_zero_or_pos significand
  · rw [Nat.cast_zero, zero_mul]
    exact isRounding_zero le_rfl (by positivity)
  · rw [unpack_toFloat positive short]
    refine isRounding_mul (full.trans (Nat.le_mul_of_pos_left mantissa ?_)) ?_ small
    · exact Nat.mul_pos positive (Nat.two_pow_pos _)
    · rw [← value, mul_two_pow_mul_zpow_neg]

theorem isRounding_toFloat_div (short : significand < 2 ^ 53) (power : Fin 23)
    (small : (significand : ℚ) / 10 ^ power.val < overflowThreshold) :
    IsRounding (significand.toUInt64.toFloat / Float.exactlyRepresentablePowersOfTen[power]).toModel.unpack
      (significand / 10 ^ power.val) := by
  obtain ⟨mantissa, exponent, full, unpacked, value⟩ := exists_unpack_power power
  change IsRounding (Float.ofModel (Float.Model.pack (UnpackedFloat.div .binary64
    significand.toUInt64.toFloat.toModel.unpack _))).toModel.unpack _
  apply IsRounding.pack
  rw [unpacked]
  obtain rfl | positive := Nat.eq_zero_or_pos significand
  · rw [Nat.cast_zero, zero_div]
    exact isRounding_zero le_rfl (by positivity)
  · rw [unpack_toFloat positive short]
    refine isRounding_div ?_ small
    rw [← value, mul_two_pow_mul_zpow_neg]

end Operations

/-- Numerals are rounded once, however they are computed. -/
theorem isRounding_nearestFloat {significand : Nat} {exponent : Int}
    (small : significand * (10 : ℚ) ^ exponent < overflowThreshold) :
    IsRounding (nearestFloat significand exponent).toModel.unpack (significand * (10 : ℚ) ^ exponent) := by
  rw [nearestFloat, Float.ofScientific]
  split
  · rename_i short
    obtain ⟨short, few⟩ := short
    dsimp only
    split
    · rename_i negative
      have scaled : (significand : ℚ) * 10 ^ exponent = significand / 10 ^ exponent.natAbs := by
        obtain ⟨places, rfl⟩ := Int.exists_eq_neg_ofNat (of_decide_eq_true negative).le
        rw [zpow_neg, zpow_natCast, Int.natAbs_neg, Int.natAbs_natCast, div_eq_mul_inv]
      rw [scaled] at small ⊢
      exact isRounding_toFloat_div short ⟨exponent.natAbs, by omega⟩ small
    · rename_i nonneg
      have scaled : (significand : ℚ) * 10 ^ exponent = significand * 10 ^ exponent.natAbs := by
        rw [← zpow_natCast, Int.natAbs_of_nonneg (by simpa using nonneg)]
      rw [scaled] at small ⊢
      exact isRounding_toFloat_mul short ⟨exponent.natAbs, by omega⟩ small
  · have signed : (if decide (exponent < 0) = true then Int.negOfNat exponent.natAbs
        else Int.ofNat exponent.natAbs) = exponent := by
      simp only [decide_eq_true_eq, Int.negOfNat_eq, Int.ofNat_eq_natCast]
      split <;> omega
    rw [signed]
    exact (isRounding_ofScientific small).pack

/-- A number that carries a value has its sign. -/
theorem Carries.negative_eq {value : Float} {magnitude : ℚ} (finite : value.isFinite = true)
    (carries : Carries .positive value.toModel.unpack magnitude) : (Binary.ofFloat value).negative = false := by
  have parts := unpack_of_isFinite finite
  generalize value.toModel.unpack = unpacked at carries parts
  have sign : .positive = (Binary.ofFloat value).sign := by
    cases carries with
    | zero =>
      split at parts
      · exact UnpackedFloat.zero.inj parts
      · cases parts
    | finite =>
      split at parts
      · cases parts
      · exact (UnpackedFloat.finite.inj parts).1
  rw [Binary.sign] at sign
  cases negative : (Binary.ofFloat value).negative
  · rfl
  · rw [negative] at sign
    cases sign

section Literals

variable {significand : Nat} {exponent : Int}

theorem exists_nearest (small : significand * (10 : ℚ) ^ exponent < overflowThreshold) :
    ∃ number : FiniteFloat, number.value = nearestFloat significand exponent ∧ number.parts.negative = false ∧
      number.IsNearest (significand * (10 : ℚ) ^ exponent) ∧
        ∀ other : FiniteFloat, other.IsNearest (significand * (10 : ℚ) ^ exponent) →
          other.parts.value = number.parts.value := by
  obtain ⟨multiple, unit, rounded, carries⟩ := isRounding_nearestFloat small
  obtain ⟨finite, value⟩ := carries.stands.value_eq
  exact ⟨⟨_, finite⟩, rfl, carries.negative_eq finite, rounded.isNearest value,
    fun other => rounded.value_eq_of_isNearest value⟩

/-- A literal with a sign is read as the one finite number of this sign that is the nearest to what it writes. -/
theorem exists_ofFloat?_nearestFloat (small : significand * (10 : ℚ) ^ exponent < overflowThreshold)
    (negative : Bool) :
    ∃ number : FiniteFloat,
      FiniteFloat.ofFloat?
        (if negative then -nearestFloat significand exponent else nearestFloat significand exponent) = some number ∧
      ∀ other : FiniteFloat,
        other.IsNearest (if negative then -(significand * (10 : ℚ) ^ exponent) else significand * (10 : ℚ) ^ exponent) ∧
          other.parts.negative = negative ↔ other = number := by
  obtain ⟨number, same, positive, nearest, unique⟩ := exists_nearest small
  rw [← same]
  cases negative with
  | false =>
    refine ⟨number, dif_pos number.finite, fun other => ⟨fun ⟨other_nearest, sign⟩ => ?_, ?_⟩⟩
    · exact FiniteFloat.eq_of_value_eq (sign.trans positive.symm) (unique other other_nearest)
    · rintro rfl
      exact ⟨nearest, positive⟩
  | true =>
    refine ⟨number.neg, dif_pos number.neg.finite, fun other => ⟨fun ⟨other_nearest, sign⟩ => ?_, ?_⟩⟩
    · have other_nearest := other_nearest.neg
      rw [if_pos rfl, neg_neg] at other_nearest
      have mirrored := unique other.neg other_nearest
      rw [FiniteFloat.value_neg] at mirrored
      refine FiniteFloat.eq_of_value_eq ?_ ?_
      · rw [sign, FiniteFloat.parts_neg, positive]
        rfl
      · rw [FiniteFloat.value_neg, ← mirrored, neg_neg]
    · rintro rfl
      refine ⟨nearest.neg, ?_⟩
      rw [FiniteFloat.parts_neg, positive]
      rfl

end Literals

end Verdict.Decimal
