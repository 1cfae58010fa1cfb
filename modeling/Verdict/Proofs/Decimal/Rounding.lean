import Verdict.Proofs.Decimal.Parts
/-!
Finite numbers under the operations of a calculation. A number that binary64 can hold is not changed by
rounding, so multiplication and division by one give it back; rounding carries a number past the next power of
two at most, so division by the powers of ten and rounding to whole numbers keep finite numbers finite, and no
division makes a number finite that was not.
-/

namespace Verdict.Decimal

open Float.Model Float.Model.UnpackedFloat

section Rounding

variable {sign : Sign} {mantissa : Nat} {exponent : Int} {accuracy : Accuracy}

theorem targetExponent_eq : Format.binary64.targetExponent (totalExponent mantissa exponent)
    = max (mantissa.log2 + exponent - 52) (-1074) := by
  change max ((mantissa.log2 : Int) + 1 + exponent - 53) (-1074) = _
  omega

theorem mantissa_shiftRight (extended : ExtendedMantissa) (places : Nat) :
    (extended >>> places).mantissa = extended.mantissa / 2 ^ places := by
  induction places with
  | zero => exact (Nat.div_one _).symm
  | succ places ih =>
    change (extended >>> places).mantissa / 2 = _
    rw [ih, Nat.div_div_eq_div_mul, Nat.pow_succ]

theorem roundedMantissa_le (extended : ExtendedMantissa) :
    extended.roundedMantissa ≤ extended.mantissa + 1 := by
  obtain ⟨mantissa, round, sticky⟩ := extended
  cases round <;> cases sticky <;>
    simp only [ExtendedMantissa.roundedMantissa, ExtendedMantissa.accuracy, Accuracy.roundToNearestEven] <;>
    omega

theorem mantissa_ofMantissaAndAccuracy :
    (ExtendedMantissa.ofMantissaAndAccuracy mantissa accuracy).mantissa = mantissa := by
  cases accuracy with
  | exact => rfl
  | inexact half => cases half <;> rfl

theorem exponent_shiftToTargetExponent (mantissa : Nat) (exponent : Int) (accuracy : Accuracy) :
    (shiftToTargetExponent .binary64 mantissa exponent accuracy).2
      = max exponent (max (mantissa.log2 + exponent - 52) (-1074)) := by
  change exponent
    + ((Format.binary64.targetExponent (totalExponent mantissa exponent) - exponent).toNat : Int) = _
  rw [targetExponent_eq]
  omega

theorem mantissa_shiftToTargetExponent (mantissa : Nat) (exponent : Int) (accuracy : Accuracy) :
    (shiftToTargetExponent .binary64 mantissa exponent accuracy).1.mantissa
      = mantissa / 2 ^ (max (mantissa.log2 + exponent - 52) (-1074) - exponent).toNat := by
  change (ExtendedMantissa.ofMantissaAndAccuracy mantissa accuracy >>> _ : ExtendedMantissa).mantissa = _
  rw [mantissa_shiftRight, mantissa_ofMantissaAndAccuracy, targetExponent_eq]

theorem log2_le_of_le {bits : Nat} (bounded : mantissa ≤ 2 ^ bits) : mantissa.log2 ≤ bits := by
  by_cases zero : mantissa = 0
  · simp [zero]
  · have : mantissa < 2 ^ (bits + 1) := by
      rw [Nat.pow_succ]
      have := Nat.two_pow_pos bits
      omega
    exact Nat.lt_succ_iff.mp ((Nat.log2_lt zero).mpr this)

/-- Rounding reaches the next power of two at most, so it keeps a number below 2¹⁰²³ finite. -/
theorem isFinite_roundWithAccuracy (bits : Nat) (below : mantissa < 2 ^ bits)
    (small : bits + exponent ≤ 1023) (low : exponent ≤ 971) :
    (Float.Model.pack (roundWithAccuracy .binary64 sign mantissa exponent accuracy)).isFinite = true := by
  have log := log2_le_of_le below.le
  have exponent₁ := exponent_shiftToTargetExponent mantissa exponent accuracy
  have mantissa₁ := mantissa_shiftToTargetExponent mantissa exponent accuracy
  rw [roundWithAccuracy]
  generalize shiftToTargetExponent .binary64 mantissa exponent accuracy = first at *
  obtain ⟨extended, reached⟩ := first
  dsimp only at exponent₁ mantissa₁ ⊢
  -- What is left of the mantissa is below a power of two, which rounding up reaches at most; the second shift
  -- is for this power.
  have room : mantissa < 2 ^ (max ((mantissa.log2 : Int) + exponent - 52) (-1074) - exponent).toNat
      * 2 ^ (1023 - reached).toNat := by
    rw [← Nat.pow_add]
    exact below.trans_le (Nat.pow_le_pow_right (by decide) (by omega))
  have quotient : extended.mantissa < 2 ^ (1023 - reached).toNat := by
    rw [mantissa₁]
    exact Nat.div_lt_of_lt_mul room
  have rounded : extended.roundedMantissa.log2 ≤ (1023 - reached).toNat :=
    log2_le_of_le ((roundedMantissa_le extended).trans quotient)
  have exponent₂ := exponent_shiftToTargetExponent extended.roundedMantissa reached .exact
  split
  · exact isFinite_pack_zero sign
  · exact isFinite_pack.mpr (by rw [exponent₂]; omega)

theorem exact_shiftRight (mantissa places : Nat) :
    (⟨mantissa * 2 ^ places, false, false⟩ : ExtendedMantissa) >>> places = ⟨mantissa, false, false⟩ := by
  induction places generalizing mantissa with
  | zero => simp only [Nat.pow_zero, Nat.mul_one]; rfl
  | succ places ih =>
    change ((⟨mantissa * 2 ^ (places + 1), false, false⟩ : ExtendedMantissa) >>> places).shiftRightOne = _
    rw [show mantissa * 2 ^ (places + 1) = (mantissa * 2) * 2 ^ places by rw [Nat.pow_succ]; ring, ih]
    simp [ExtendedMantissa.shiftRightOne]

theorem log2_mul_two_pow (positive : 0 < mantissa) (places : Nat) :
    (mantissa * 2 ^ places).log2 = mantissa.log2 + places := by
  induction places with
  | zero => simp
  | succ places ih =>
    rw [Nat.pow_succ', Nat.mul_left_comm, Nat.log2_two_mul (Nat.mul_pos positive (Nat.two_pow_pos _)).ne', ih]
    rfl

theorem shiftToTargetExponent_of_fits (positive : 0 < mantissa) (fits : Binary.Fits mantissa exponent)
    (places : Nat) :
    shiftToTargetExponent .binary64 (mantissa * 2 ^ places) (exponent - places) .exact
      = (⟨mantissa, false, false⟩, exponent) := by
  have log := fits.log2_le
  have least := fits.le_exponent
  have target : max (((mantissa * 2 ^ places).log2 : Int) + (exponent - places) - 52) (-1074) = exponent := by
    rw [log2_mul_two_pow positive]
    obtain normal | subnormal := fits.full
    · have : 52 ≤ mantissa.log2 := (Nat.le_log2 positive.ne').mpr normal
      omega
    · omega
  have shift : (exponent - (exponent - places)).toNat = places := by omega
  rw [shiftToTargetExponent, targetExponent_eq, target, shiftToExponent, shift]
  exact Prod.ext (exact_shiftRight mantissa places) (by dsimp only; omega)

/-- The first shift decides what is left of a number; the second one only brings it into its form. -/
theorem roundWithAccuracy_of_shift {extended : ExtendedMantissa} {reached : Int} {mantissa' : Nat}
    {exponent' : Int} {places : Nat}
    (first : shiftToTargetExponent .binary64 mantissa exponent accuracy = (extended, reached))
    (rounded : extended.roundedMantissa = mantissa' * 2 ^ places) (left : reached = exponent' - places)
    (positive : 0 < mantissa') (fits : Binary.Fits mantissa' exponent') :
    roundWithAccuracy .binary64 sign mantissa exponent accuracy = .finite sign mantissa' exponent' positive := by
  have second := shiftToTargetExponent_of_fits positive fits places
  rw [← rounded, ← left] at second
  rw [roundWithAccuracy, first]
  dsimp only
  have nonzero :
      (shiftToTargetExponent .binary64 extended.roundedMantissa reached .exact).1.mantissa ≠ 0 := by
    rw [second]
    exact positive.ne'
  exact (dif_neg nonzero).trans (finite_congr rfl (congrArg (·.1.mantissa) second) (congrArg Prod.snd second))

/-- What a binary64 number can hold is not changed by rounding, however it is written. -/
theorem roundWithAccuracy_of_fits (positive : 0 < mantissa) (fits : Binary.Fits mantissa exponent)
    (places : Nat) :
    roundWithAccuracy .binary64 sign (mantissa * 2 ^ places) (exponent - places) .exact
      = .finite sign mantissa exponent positive := by
  have whole : ExtendedMantissa.roundedMantissa ⟨mantissa, false, false⟩ = mantissa * 2 ^ 0 :=
    (Nat.mul_one _).symm
  exact roundWithAccuracy_of_shift (shiftToTargetExponent_of_fits positive fits places) whole
    (sub_zero exponent).symm positive fits

end Rounding

theorem isFinite_neg {value : Float} (finite : value.isFinite = true) : (-value).isFinite = true := by
  change (Float.Model.pack value.toModel.unpack.neg).isFinite = true
  rw [unpack_of_isFinite finite]
  split
  · exact isFinite_pack_zero _
  · exact isFinite_pack.mpr (fits_of_isFinite finite).exponent_le

section Unit

variable {value unit : Float}

/-- Multiplication by one gives a finite number back. -/
theorem mul_unit (finite : value.isFinite = true)
    (one : unit.toModel.unpack = .finite .positive (2 ^ 52) (-52) (by decide)) : value * unit = value := by
  refine Eq.trans ?_ (ofModel_pack_unpack value)
  change Float.ofModel (Float.Model.pack (UnpackedFloat.mul .binary64 _ _)) = _
  have fits := fits_of_isFinite finite
  rw [one, unpack_of_isFinite finite]
  split
  · cases (Binary.ofFloat value).sign <;> rfl
  · rename_i nonzero
    have same : (Binary.ofFloat value).sign * Sign.positive = (Binary.ofFloat value).sign := by
      cases (Binary.ofFloat value).sign <;> rfl
    rw [UnpackedFloat.mul, same, ← sub_eq_add_neg]
    exact congrArg _ (congrArg _ (roundWithAccuracy_of_fits (Nat.pos_of_ne_zero nonzero) fits 52))

theorem divCore_unit {mantissa : Nat} {exponent : Int} (fits : Binary.Fits mantissa exponent) :
    ∃ places : Nat, divCore .binary64 mantissa exponent (2 ^ 52) (-52)
      = (mantissa * 2 ^ places, exponent - places, .exact) := by
  have log := fits.log2_le
  have least := fits.le_exponent
  obtain ⟨places, target⟩ : ∃ places : Nat,
      min (exponent - -52) (Format.binary64.targetExponent
        (totalExponent mantissa exponent - totalExponent (2 ^ 52) (-52))) = exponent - places := by
    have total : totalExponent mantissa exponent - totalExponent (2 ^ 52) (-52) = mantissa.log2 + exponent := by
      rw [totalExponent, totalExponent, Nat.log2_two_pow]
      omega
    rw [total]
    change ∃ places : Nat, min (exponent - -52) (max (mantissa.log2 + exponent - 53) (-1074)) = _
    exact ⟨(exponent - max (mantissa.log2 + exponent - 53) (-1074)).toNat, by omega⟩
  have shift : (exponent - -52 - (exponent - places)).toNat = places + 52 := by omega
  refine ⟨places, ?_⟩
  rw [divCore, target, shift, Nat.shiftLeft_eq, Nat.pow_add, ← Nat.mul_assoc,
    Nat.mul_div_cancel _ (Nat.two_pow_pos 52), Nat.mul_mod_left]
  rfl

/-- Division by one gives a finite number back. -/
theorem div_unit (finite : value.isFinite = true)
    (one : unit.toModel.unpack = .finite .positive (2 ^ 52) (-52) (by decide)) : value / unit = value := by
  refine Eq.trans ?_ (ofModel_pack_unpack value)
  change Float.ofModel (Float.Model.pack (UnpackedFloat.div .binary64 _ _)) = _
  have fits := fits_of_isFinite finite
  rw [one, unpack_of_isFinite finite]
  split
  · cases (Binary.ofFloat value).sign <;> rfl
  · rename_i nonzero
    have same : (Binary.ofFloat value).sign / Sign.positive = (Binary.ofFloat value).sign := by
      cases (Binary.ofFloat value).sign <;> rfl
    obtain ⟨places, quotient⟩ := divCore_unit fits
    rw [UnpackedFloat.div, same, quotient]
    exact congrArg _ (congrArg _ (roundWithAccuracy_of_fits (Nat.pos_of_ne_zero nonzero) fits places))

end Unit

theorem isFinite_round {sign : Sign} {number : Nat} (small : number < 2 ^ 53) :
    (Float.Model.pack (UnpackedFloat.round .binary64 sign number 0)).isFinite = true := by
  rw [UnpackedFloat.round]
  generalize Format.binary64.targetExponent (totalExponent number 0) = target
  rw [decreaseExponent]
  dsimp only
  generalize (0 - target).toNat = places
  rw [Nat.shiftLeft_eq]
  refine isFinite_roundWithAccuracy (53 + places) ?_ (by omega) (by omega)
  rw [Nat.pow_add]
  exact Nat.mul_lt_mul_of_pos_right small (Nat.two_pow_pos places)

theorem isFinite_toFloat {word : UInt64} (small : word.toNat < 2 ^ 53) : word.toFloat.isFinite = true := by
  change (Float.Model.pack (UnpackedFloat.normalize .binary64 (word.toNat : Int) 0 .positive)).isFinite = true
  rw [UnpackedFloat.normalize]
  split
  · exact isFinite_round (by omega)
  · rfl
  · exact isFinite_round small

theorem toNat_toUInt64 {number : Nat} (small : number < 2 ^ 53) : number.toUInt64.toNat = number := by
  rw [Nat.toUInt64, UInt64.toNat_ofNat']
  exact Nat.mod_eq_of_lt (by omega)

/-- A number of at most 53 bits is converted as a word; the power of ten that it is multiplied by is one. -/
theorem ofNat_eq_toFloat {number : Nat} (small : number < 2 ^ 53) :
    Float.ofNat number = number.toUInt64.toFloat := by
  have finite : number.toUInt64.toFloat.isFinite = true := isFinite_toFloat (by rwa [toNat_toUInt64 small])
  have unit : (getElem Float.exactlyRepresentablePowersOfTen 0 (by decide)).isFinite = true ∧
      Binary.ofFloat (getElem Float.exactlyRepresentablePowersOfTen 0 (by decide)) = ⟨false, 2 ^ 52, -52⟩ := by
    decide +kernel
  unfold Float.ofNat
  change Float.ofScientific number false 0 = _
  rw [Float.ofScientific, dif_pos ⟨small, by decide⟩]
  dsimp only
  rw [if_neg (by decide), mul_unit finite (unpack_of_ofFloat (by decide) unit)]

theorem isFinite_ofNat {number : Nat} (small : number < 2 ^ 53) : (Float.ofNat number).isFinite = true := by
  rw [ofNat_eq_toFloat small]
  exact isFinite_toFloat (by rwa [toNat_toUInt64 small])

theorem isFinite_ofInt {number : Int} (small : number.natAbs < 2 ^ 53) :
    (Float.ofInt number).isFinite = true := by
  cases number with
  | ofNat number => exact isFinite_ofNat small
  | negSucc number => exact isFinite_neg (isFinite_ofNat small)

theorem natAbs_signed (number : Binary) (magnitude : Nat) : (number.signed magnitude).natAbs = magnitude := by
  rw [Binary.signed]
  split <;> omega

/-- A number with a fraction is below the mantissas, so its nearest whole number is one of the exact ones. -/
theorem natAbs_nearest_lt {number : Binary} (mantissa_lt : number.mantissa < 2 ^ 53)
    (fraction : number.isWhole = false) : number.nearest.natAbs < 2 ^ 53 := by
  have remainder : number.numerator % number.denominator ≠ 0 := by simpa [Binary.isWhole] using fraction
  have negative : number.exponent < 0 := by
    by_contra! nonnegative
    apply remainder
    rw [Binary.denominator, show (-number.exponent).toNat = 0 by omega]
    exact Nat.mod_one _
  have numerator : number.numerator = number.mantissa := by
    rw [Binary.numerator, show number.exponent.toNat = 0 by omega]
    exact Nat.mul_one _
  have denominator : 2 ≤ number.denominator := by
    have : number.denominator ≠ 0 := (Nat.two_pow_pos _).ne'
    have : number.denominator ≠ 1 := fun one => remainder (by rw [one]; exact Nat.mod_one _)
    omega
  rw [Binary.nearest, natAbs_signed, Nat.div_lt_iff_lt_mul (by omega)]
  omega

theorem isFinite_roundHalfAway (value : Float) : (roundHalfAway value).isFinite = value.isFinite := by
  rw [roundHalfAway]
  split
  · rfl
  · rename_i rounds
    simp only [Bool.or_eq_true, Bool.not_eq_true', not_or, Bool.not_eq_false, Bool.not_eq_true] at rounds
    obtain ⟨finite, fraction⟩ := rounds
    have rounded : (Float.ofInt (Binary.ofFloat value).nearest).isFinite = true :=
      isFinite_ofInt (natAbs_nearest_lt (fits_of_isFinite finite).mantissa_lt fraction)
    rw [finite]
    dsimp only
    split
    · exact isFinite_neg rounded
    · exact rounded

section Quotient

variable {value divisor : Float} {sign : Sign} {mantissa : Nat} {exponent : Int} {positive : 0 < mantissa}
  (parts : divisor.toModel.unpack = .finite sign mantissa exponent positive)

include parts

/-- Division by a finite number other than zero makes no finite number of one that is not. -/
theorem isFinite_of_isFinite_div (finite : (value / divisor).isFinite = true) : value.isFinite = true := by
  change (Float.Model.pack (UnpackedFloat.div .binary64 _ divisor.toModel.unpack)).isFinite = true at finite
  change value.toModel.unpack.isFinite = true
  rw [parts] at finite
  cases unpacked : value.toModel.unpack with
  | zero => rfl
  | finite => rfl
  | notANumber =>
    rw [unpacked, UnpackedFloat.div] at finite
    exact absurd finite (by decide)
  | infinity =>
    rw [unpacked, UnpackedFloat.div, isFinite_pack_infinity] at finite
    exact absurd finite (by decide)

/-- Division by two or more leaves finite numbers finite. -/
theorem isFinite_div (full : 2 ^ 52 ≤ mantissa) (large : -51 ≤ exponent) (finite : value.isFinite = true) :
    (value / divisor).isFinite = true := by
  change (Float.Model.pack (UnpackedFloat.div .binary64 _ divisor.toModel.unpack)).isFinite = true
  have fits := fits_of_isFinite finite
  rw [parts, unpack_of_isFinite finite]
  split
  · exact isFinite_pack_zero _
  · generalize (Binary.ofFloat value).mantissa = dividend at *
    generalize (Binary.ofFloat value).exponent = dividendExponent at *
    have log := fits.log2_le
    have greatest := fits.exponent_le
    have divisorLog : 52 ≤ mantissa.log2 := (Nat.le_log2 positive.ne').mpr full
    have target : Format.binary64.targetExponent
        (totalExponent dividend dividendExponent - totalExponent mantissa exponent) ≤ 971 := by
      rw [totalExponent, totalExponent]
      change max (_ - 53) (-1074) ≤ (971 : Int)
      omega
    -- The divisor has a full mantissa, so the quotient has one bit more than the dividend is shifted by.
    rw [UnpackedFloat.div, divCore]
    dsimp only
    generalize Format.binary64.targetExponent _ = wanted at *
    generalize shift : (dividendExponent - exponent - min (dividendExponent - exponent) wanted).toNat = places
    refine isFinite_roundWithAccuracy (1 + places) ?_ (by omega) (by omega)
    apply Nat.div_lt_of_lt_mul
    calc dividend <<< places = dividend * 2 ^ places := Nat.shiftLeft_eq ..
      _ < 2 ^ 53 * 2 ^ places := Nat.mul_lt_mul_of_pos_right fits.mantissa_lt (Nat.two_pow_pos _)
      _ = 2 ^ 52 * 2 ^ (1 + places) := by rw [← Nat.pow_add, ← Nat.pow_add]; congr 1; omega
      _ ≤ mantissa * 2 ^ (1 + places) := Nat.mul_le_mul_right _ full

end Quotient

/-- The powers of ten up to the fifteenth are exact, so division by them neither makes nor removes an
infinite number. -/
theorem isFinite_div_tenPower (value : Float) {decimals : Nat} (few : decimals ≤ 15) :
    (value / Float.ofNat (Nat.pow 10 decimals)).isFinite = value.isFinite := by
  have scales : ∀ decimals : Fin 16, (Float.ofNat (Nat.pow 10 decimals)).isFinite = true ∧
      2 ^ 52 ≤ (Binary.ofFloat (Float.ofNat (Nat.pow 10 decimals))).mantissa ∧
      (decimals = 0 ∨ -51 ≤ (Binary.ofFloat (Float.ofNat (Nat.pow 10 decimals))).exponent) := by
    decide +kernel
  obtain ⟨exact, full, large⟩ := scales ⟨decimals, by omega⟩
  have parts := unpack_of_mantissa_pos exact (Nat.lt_of_lt_of_le (by decide) full)
  apply Bool.eq_iff_iff.mpr
  refine ⟨isFinite_of_isFinite_div parts, fun finite => ?_⟩
  obtain none | large := large
  · obtain rfl : decimals = 0 := congrArg Fin.val none
    have one : (Float.ofNat (Nat.pow 10 0)).isFinite = true ∧
        Binary.ofFloat (Float.ofNat (Nat.pow 10 0)) = ⟨false, 2 ^ 52, -52⟩ := by decide +kernel
    rwa [div_unit finite (unpack_of_ofFloat (by decide) one)]
  · exact isFinite_div parts full large finite

theorem unpack_abs {value : Float} (finite : value.isFinite = true) :
    value.abs.toModel.unpack = value.toModel.unpack.abs := by
  change (Float.Model.pack value.toModel.unpack.abs).unpack = _
  have fits := fits_of_isFinite finite
  rw [unpack_of_isFinite finite]
  split
  · exact unpack_packedZero
  · exact unpack_pack fits

/-- The limit has a full mantissa, and no smaller mantissa goes with its exponent. -/
theorem numerator_lt_of_abs_lt {value : Float} (finite : value.isFinite = true)
    (below : value.abs < 9223372036854775808) : (Binary.ofFloat value).numerator < 2 ^ 63 := by
  have limit : (9223372036854775808 : Float).isFinite = true ∧
      Binary.ofFloat 9223372036854775808 = ⟨false, 2 ^ 52, 11⟩ := by decide +kernel
  obtain ⟨mantissa_lt, -, -, full⟩ := fits_of_isFinite finite
  replace below := of_decide_eq_true below
  change UnpackedFloat.lt value.abs.toModel.unpack (9223372036854775808 : Float).toModel.unpack = true at below
  rw [unpack_abs finite, unpack_of_ofFloat (by decide) limit, unpack_of_isFinite finite] at below
  rw [Binary.numerator]
  split at below
  · rename_i zero
    rw [zero, Nat.zero_mul]
    decide
  · have order := Ordering.then_eq_lt.mp (Option.some.inj (beq_iff_eq.mp below))
    rw [Int.compare_eq_lt, compare_eq_iff_eq, Nat.compare_eq_lt] at order
    have exponent : (Binary.ofFloat value).exponent ≤ 10 := by omega
    calc _ < 2 ^ 53 * Nat.pow 2 (Binary.ofFloat value).exponent.toNat :=
          Nat.mul_lt_mul_of_pos_right mantissa_lt (Nat.two_pow_pos _)
      _ ≤ 2 ^ 53 * 2 ^ 10 := Nat.mul_le_mul_left _ (Nat.pow_le_pow_right (by decide) (by omega))
      _ = 2 ^ 63 := by decide

theorem natAbs_truncate_lt {value : Float} (finite : value.isFinite = true)
    (below : value.abs < 9223372036854775808) : (Binary.ofFloat value).truncate.natAbs < 2 ^ 63 := by
  rw [Binary.truncate, natAbs_signed]
  exact (Nat.div_le_self _ _).trans_lt (numerator_lt_of_abs_lt finite below)

end Verdict.Decimal
