import Verdict.Proofs.Decimal.Nearest
import Verdict.Proofs.Decimal.Rounding
import Verdict.Proofs.Decimal.Value
/-!
Integers as binary64 numbers. The conversion writes zeros behind an integer, shifts the bits out that do not fit
in 53, and rounds by what was shifted out. What it makes of an integer of 64 bits has the value of the integer cut
to 53 bits.
-/

namespace Verdict.Decimal

open Float.Model Float.Model.UnpackedFloat

/-- The bits behind a mantissa that was shifted: the last one that went, and whether any before it was set. -/
theorem shiftRight_succ_eq (mantissa places : Nat) :
    (⟨mantissa, false, false⟩ : ExtendedMantissa) >>> (places + 1) =
      ⟨mantissa / 2 ^ (places + 1), mantissa / 2 ^ places % 2 != 0, mantissa % 2 ^ places != 0⟩ := by
  induction places with
  | zero =>
    change (⟨mantissa / 2, mantissa % 2 != 0, false⟩ : ExtendedMantissa) = _
    simp [Nat.mod_one]
  | succ places ih =>
    change ((⟨mantissa, false, false⟩ : ExtendedMantissa) >>> (places + 1)).shiftRightOne = _
    have sticky : (mantissa / 2 ^ places % 2 != 0 || mantissa % 2 ^ places != 0) =
        (mantissa % 2 ^ (places + 1) != 0) := by
      rw [Nat.mod_pow_succ, Bool.eq_iff_iff]
      have := Nat.two_pow_pos places
      simp only [Bool.or_eq_true, bne_iff_ne, ne_eq, Nat.add_eq_zero_iff, Nat.mul_eq_zero]
      omega
    rw [ih, ExtendedMantissa.shiftRightOne, sticky, Nat.div_div_eq_div_mul, ← Nat.pow_succ]

theorem roundedMantissa_shiftRight (mantissa places : Nat) :
    ((⟨mantissa, false, false⟩ : ExtendedMantissa) >>> places).roundedMantissa = halfEven mantissa places := by
  cases places with
  | zero => exact (halfEven_zero mantissa).symm
  | succ places =>
    have step := @Nat.mod_pow_succ mantissa 2 places
    have low := Nat.mod_lt mantissa (Nat.two_pow_pos places)
    rw [shiftRight_succ_eq, halfEven, step, Nat.pow_succ 2 places]
    obtain off | on := Nat.mod_two_eq_zero_or_one (mantissa / 2 ^ places)
    · rw [off, Nat.mul_zero, Nat.add_zero, if_pos (by omega)]
      cases mantissa % 2 ^ places != 0 <;> rfl
    · rw [on, Nat.mul_one, if_neg (by omega)]
      by_cases tie : mantissa % 2 ^ places = 0
      · rw [tie, if_neg (by omega)]
        rfl
      · have sticky : (mantissa % 2 ^ places != 0) = true := bne_iff_ne.2 tie
        rw [sticky, if_pos (by omega)]
        rfl

section Integers

variable {number : Nat}

/-- A mantissa that fits, or one that has been rounded up to the next power of two. -/
theorem exists_fits_of_le {mantissa : Nat} {exponent : Int} (full : 2 ^ 52 ≤ mantissa ∨ exponent = -1074)
    (positive : 0 < mantissa) (most : mantissa ≤ 2 ^ 53) (low : -1074 ≤ exponent) (high : exponent ≤ 971)
    (top : mantissa = 2 ^ 53 → exponent < 971) :
    ∃ (mantissa' : Nat) (exponent' : Int) (places : Nat), 0 < mantissa' ∧ Binary.Fits mantissa' exponent' ∧
      mantissa = mantissa' * 2 ^ places ∧ exponent = exponent' - places := by
  obtain less | same := most.lt_or_eq
  · exact ⟨mantissa, exponent, 0, positive, ⟨less, low, high, full⟩, by simp, by simp⟩
  · have room := top same
    have fits : Binary.Fits (2 ^ 52) (exponent + 1) := ⟨by decide, by omega, by omega, .inl (by decide)⟩
    exact ⟨2 ^ 52, exponent + 1, 1, by decide, fits, same.trans (by decide), by omega⟩

theorem mul_two_pow_mul_zpow (mantissa places : Nat) (exponent : Int) :
    ((mantissa * 2 ^ places : Nat) : ℚ) * 2 ^ (exponent - places) = mantissa * 2 ^ exponent := by
  have two : (2 : ℚ) ≠ 0 := by norm_num
  push_cast
  rw [mul_assoc, ← zpow_natCast, ← zpow_add₀ two]
  congr 2
  omega

theorem mul_two_pow_mul_zpow_neg (number places : Nat) :
    ((number * 2 ^ places : Nat) : ℚ) * 2 ^ (-(places : Int)) = number := by
  have shifted := mul_two_pow_mul_zpow number places 0
  rwa [zpow_zero, mul_one, zero_sub] at shifted

/-- A short number fills the 53 bits with zeros. -/
theorem fits_of_lt (positive : 0 < number) (short : number < 2 ^ 53) :
    Binary.Fits (number * 2 ^ (52 - number.log2)) (-(52 - number.log2 : Nat)) := by
  have bits : number.log2 ≤ 52 := Nat.lt_succ_iff.mp ((Nat.log2_lt positive.ne').mpr short)
  have least := Nat.mul_le_mul_right (2 ^ (52 - number.log2)) (Nat.log2_self_le positive.ne')
  have most := Nat.mul_lt_mul_of_pos_right (@Nat.lt_log2_self number) (Nat.two_pow_pos (52 - number.log2))
  rw [← Nat.pow_add, show number.log2 + (52 - number.log2) = 52 by omega] at least
  rw [← Nat.pow_add, show number.log2 + 1 + (52 - number.log2) = 53 by omega] at most
  exact ⟨most, by omega, by omega, .inl least⟩

/-- A number is rounded to its first 53 bits. -/
theorem stands_roundWithAccuracy (long : 2 ^ 53 ≤ number) (small : number < 2 ^ 64) (zeros : Nat) :
    Stands (roundWithAccuracy .binary64 .positive (number * 2 ^ zeros) (-zeros) .exact) (nearestNat number) := by
  have positive : 0 < number := by omega
  have bits : 53 ≤ number.log2 := (Nat.le_log2 positive.ne').mpr long
  have bits' : number.log2 < 64 := (Nat.log2_lt positive.ne').mpr small
  have places : (surplus number : Int) = number.log2 - 52 := by rw [surplus]; omega
  have shifted : shiftToTargetExponent .binary64 (number * 2 ^ zeros) (-zeros) .exact =
      ((⟨number * 2 ^ zeros, false, false⟩ : ExtendedMantissa) >>> (surplus number + zeros),
        (surplus number : Int)) := by
    have shift : ((surplus number : Int) - -zeros).toNat = surplus number + zeros := by omega
    have target : max (((number * 2 ^ zeros).log2 : Int) + -zeros - 52) (-1074) = surplus number := by
      rw [log2_mul_two_pow positive]
      omega
    unfold shiftToTargetExponent
    rw [targetExponent_eq, target, shiftToExponent, shift]
    exact Prod.ext rfl (by dsimp only; omega)
  have kept := halfEven_surplus (show 52 ≤ number.log2 by omega)
  obtain ⟨mantissa, exponent, room, pos, fits, same, left⟩ :=
    exists_fits_of_le (.inl kept.1) (by omega) kept.2 (show (-1074 : Int) ≤ surplus number by omega) (by omega)
      (by omega)
  have value : (nearestNat number : ℚ) = mantissa * 2 ^ exponent := by
    rw [← mul_two_pow_mul_zpow mantissa room exponent, ← left, ← same, nearestNat, zpow_natCast]
    push_cast
    rfl
  rw [value, roundWithAccuracy_of_shift shifted ?_ left pos fits]
  · exact .positive pos fits
  · rw [roundedMantissa_shiftRight, halfEven_mul_two_pow, same]

theorem stands_ofScientific (long : 2 ^ 53 ≤ number) (small : number < 2 ^ 64) :
    Stands (UnpackedFloat.ofScientific .binary64 number 0) (nearestNat number) := by
  have positive : number ≠ 0 := by omega
  have power : (0 : Int) ≤ 2 ^ Format.binary64.exponentBits := by positivity
  have written : number <<< Format.binary64.mantissaBits * 10 ^ (0 : Int).toNat = number * 2 ^ 53 := by
    rw [Nat.shiftLeft_eq, Int.toNat_zero, Nat.pow_zero, Nat.mul_one]
    rfl
  have exponent : -(Format.binary64.mantissaBits : Int) + 0 = -(53 : Nat) := by decide
  rw [UnpackedFloat.ofScientific, dif_neg positive, if_neg (not_lt.mpr power), if_neg (by omega), if_pos le_rfl,
    UnpackedFloat.mul, written, exponent]
  exact stands_roundWithAccuracy long small 53

theorem round_of_lt (positive : 0 < number) (short : number < 2 ^ 53) :
    UnpackedFloat.round .binary64 .positive number 0 =
      .finite .positive (number * 2 ^ (52 - number.log2)) (-(52 - number.log2 : Nat))
        (Nat.mul_pos positive (Nat.two_pow_pos _)) := by
  have bits : number.log2 ≤ 52 := Nat.lt_succ_iff.mp ((Nat.log2_lt positive.ne').mpr short)
  have filled : 0 < number * 2 ^ (52 - number.log2) := Nat.mul_pos positive (Nat.two_pow_pos _)
  have places : (0 - Format.binary64.targetExponent (totalExponent number 0)).toNat = 52 - number.log2 := by
    rw [targetExponent_eq]
    omega
  have rounded := @roundWithAccuracy_of_fits .positive _ _ filled (fits_of_lt positive short) 0
  rw [Nat.pow_zero, Nat.mul_one, Nat.cast_zero, sub_zero] at rounded
  rw [UnpackedFloat.round, decreaseExponent, places, Nat.shiftLeft_eq, zero_sub]
  exact rounded

theorem stands_round (positive : 0 < number) (short : number < 2 ^ 53) :
    Stands (UnpackedFloat.round .binary64 .positive number 0) number := by
  rw [round_of_lt positive short, ← mul_two_pow_mul_zpow_neg number (52 - number.log2)]
  exact .positive _ (fits_of_lt positive short)

theorem stands_ofNat (small : number < 2 ^ 64) :
    Stands (Float.ofNat number).toModel.unpack (nearestNat number) := by
  obtain short | long := Nat.lt_or_ge number (2 ^ 53)
  · rw [ofNat_eq_toFloat short, nearestNat_of_le short.le]
    change Stands (Float.ofModel (Float.Model.pack
      (UnpackedFloat.normalize .binary64 (number.toUInt64.toNat : Int) 0 .positive))).toModel.unpack _
    apply Stands.pack
    rw [toNat_toUInt64 short, UnpackedFloat.normalize]
    obtain rfl | positive := Nat.eq_zero_or_pos number
    · exact .zero _
    · rw [compare_gt_iff_gt.2 (Int.natCast_pos.mpr positive)]
      exact stands_round positive short
  · have slow : Float.ofNat number = Float.ofModel (Float.Model.ofScientific number 0) := by
      unfold Float.ofNat
      change Float.ofScientific number false 0 = _
      rw [Float.ofScientific, dif_neg (by omega)]
      rfl
    rw [slow]
    exact (stands_ofScientific long small).pack

/-- An integer of 64 bits becomes a finite number, of the value of its first 53 bits rounded to nearest. -/
theorem value_ofInt {integer : Int} (small : integer.natAbs < 2 ^ 64) :
    (Float.ofInt integer).isFinite = true ∧ (Binary.ofFloat (Float.ofInt integer)).value = (nearest integer : ℚ) := by
  apply Stands.value_eq
  cases integer with
  | ofNat number => exact stands_ofNat small
  | negSucc number =>
    have magnitude : Stands (Float.ofNat (number + 1)).toModel.unpack (nearestNat (number + 1)) := stands_ofNat small
    rw [nearest]
    push_cast
    exact magnitude.neg.pack

/-- A number that binary64 can hold has nothing to be cut off. -/
theorem nearestNat_of_fits {mantissa : Nat} {exponent : Int} (fits : Binary.Fits mantissa exponent)
    (same : (number : ℚ) = mantissa * 2 ^ exponent) : nearestNat number = number := by
  obtain short | long := Nat.le_total number.log2 52
  · exact nearestNat_of_log2_le short
  · rw [nearestNat_eq_self_iff]
    have positive : number ≠ 0 := fun zero => by simp [zero] at long
    have bits : 52 + surplus number = number.log2 := by rw [surplus]; omega
    have large : (2 : ℚ) ^ (52 + surplus number) ≤ number := by
      rw [bits]
      exact_mod_cast Nat.log2_self_le positive
    have below : (mantissa : ℚ) < 2 ^ 53 := by exact_mod_cast fits.mantissa_lt
    have enough : (surplus number : Int) ≤ exponent := by
      by_contra! less
      have : (number : ℚ) < 2 ^ (52 + surplus number) := by
        calc (number : ℚ) = mantissa * 2 ^ exponent := same
          _ < 2 ^ 53 * 2 ^ exponent := by gcongr
          _ ≤ 2 ^ 53 * 2 ^ ((surplus number : Int) - 1) := by
            gcongr
            · norm_num
            · omega
          _ = 2 ^ (52 + surplus number) := by
            rw [← zpow_natCast, ← zpow_natCast, ← zpow_add₀ (by norm_num)]
            congr 1
            push_cast
            ring
      exact absurd large (not_le.2 this)
    obtain ⟨places, rfl⟩ := Int.eq_ofNat_of_zero_le (show 0 ≤ exponent by omega)
    have whole : number = mantissa * 2 ^ places := by exact_mod_cast same
    exact (Nat.pow_dvd_pow 2 (by omega)).trans (Dvd.intro_left mantissa whole.symm)

/-- An integer that is the value of a binary64 number is not changed by rounding. -/
theorem nearest_of_eq_value {integer : Int} {value : Float} (finite : value.isFinite = true)
    (same : (integer : ℚ) = (Binary.ofFloat value).value) : nearest integer = integer := by
  have fits := fits_of_isFinite finite
  refine nearest_of_nearestNat (nearestNat_of_fits fits ?_)
  rw [Nat.cast_natAbs, Int.cast_abs, same, Binary.abs_value, Binary.magnitude]

end Integers

end Verdict.Decimal
