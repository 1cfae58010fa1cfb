import Mathlib
import Verdict.Decimal.Binary
/-!
The parts of a binary64 number are those that the model of its arithmetic works on: a finite number is taken
apart into the same sign, mantissa and exponent, and what can be such parts survives being packed into bits.
-/

namespace Verdict.Decimal

open Float.Model Float.Model.UnpackedFloat

namespace Binary

/-- The sign of a number as the model of the arithmetic has it. -/
def sign (number : Binary) : Sign :=
  if number.negative then .negative else .positive

/-- The bits of a number as the model of the arithmetic takes them apart. -/
def pattern (value : Float) : BitVec Format.binary64.numBits :=
  value.toModel.toBits.toBitVec

/-- Parts that a binary64 number can have: a mantissa of 53 bits, full unless the exponent is the least. -/
structure Fits (mantissa : Nat) (exponent : Int) : Prop where
  mantissa_lt : mantissa < 2 ^ 53
  le_exponent : -1074 ≤ exponent
  exponent_le : exponent ≤ 971
  full : 2 ^ 52 ≤ mantissa ∨ exponent = -1074

theorem Fits.log2_le {mantissa : Nat} {exponent : Int} (fits : Fits mantissa exponent) : mantissa.log2 ≤ 52 := by
  by_cases zero : mantissa = 0
  · simp [zero]
  · exact Nat.lt_succ_iff.mp ((Nat.log2_lt zero).mpr fits.mantissa_lt)

end Binary

section Bits

variable (value : Float)

theorem unpackMantissa_toNat :
    (unpackMantissa (Binary.pattern value)).toNat
      = value.toBits.toNat % 4503599627370496 := by
  rw [unpackMantissa_def, BitVec.extractLsb'_toNat]
  rfl

theorem unpackExponent_toNat :
    (unpackExponent (Binary.pattern value)).toNat
      = value.toBits.toNat / 4503599627370496 % 2048 := by
  rw [unpackExponent_def, BitVec.extractLsb'_toNat, Nat.shiftRight_eq_div_pow]
  rfl

theorem unpackSign_toNat :
    (unpackSign (Binary.pattern value)).toNat
      = value.toBits.toNat / 9223372036854775808 := by
  have fits : (Binary.pattern value).toNat < 2 ^ 64 := BitVec.isLt _
  rw [unpackSign_def, BitVec.extractLsb'_toNat, Nat.shiftRight_eq_div_pow]
  exact Nat.mod_eq_of_lt (by change _ / 9223372036854775808 < 2; omega)

theorem sign_ofFloat :
    (Binary.ofFloat value).sign
      = Sign.ofBitVec (unpackSign (Binary.pattern value)) := by
  have negative : (Binary.ofFloat value).negative = (value.toBits.toNat / 9223372036854775808 == 1) := by
    simp only [Binary.ofFloat]
    split <;> rfl
  rw [Binary.sign, negative, Sign.ofBitVec, ← unpackSign_toNat]
  obtain zero | one := BitVec.eq_zero_or_eq_one
    (unpackSign (Binary.pattern value))
  · rw [zero]; rfl
  · rw [one]; rfl

theorem mantissa_ofFloat :
    (Binary.ofFloat value).mantissa =
      if unpackExponent (Binary.pattern value) = 0#11 then
        (unpackMantissa (Binary.pattern value)).toNat
      else 2 ^ 52 + (unpackMantissa (Binary.pattern value)).toNat := by
  simp only [← BitVec.toNat_inj, unpackExponent_toNat, unpackMantissa_toNat, BitVec.toNat_ofNat,
    Nat.zero_mod, Binary.ofFloat]
  split <;> rfl

theorem exponent_ofFloat :
    (Binary.ofFloat value).exponent =
      if unpackExponent (Binary.pattern value) = 0#11 then -1074
      else ((unpackExponent (Binary.pattern value)).toNat : Int) - 1075 := by
  simp only [← BitVec.toNat_inj, unpackExponent_toNat, BitVec.toNat_ofNat, Nat.zero_mod, Binary.ofFloat]
  split <;> rfl

theorem finite_congr {sign sign' : Sign} {mantissa mantissa' : Nat} {exponent exponent' : Int}
    {positive : 0 < mantissa} {positive' : 0 < mantissa'} (signs : sign = sign')
    (mantissas : mantissa = mantissa') (exponents : exponent = exponent') :
    UnpackedFloat.finite sign mantissa exponent positive = .finite sign' mantissa' exponent' positive' := by
  subst signs mantissas exponents
  rfl

/-- The model takes a finite number apart into the same parts. -/
theorem unpack_of_isFinite {value : Float} (finite : value.isFinite = true) :
    value.toModel.unpack =
      if zero : (Binary.ofFloat value).mantissa = 0 then .zero (Binary.ofFloat value).sign
      else .finite (Binary.ofFloat value).sign (Binary.ofFloat value).mantissa
        (Binary.ofFloat value).exponent (Nat.pos_of_ne_zero zero) := by
  have mantissa := mantissa_ofFloat value
  have exponent := exponent_ofFloat value
  change (UnpackedFloat.unpack .binary64 (Binary.pattern value)).isFinite = true at finite
  change UnpackedFloat.unpack .binary64 (Binary.pattern value) = _
  rw [UnpackedFloat.unpack] at finite ⊢
  dsimp only at finite ⊢
  rw [← sign_ofFloat] at finite ⊢
  split at finite
  · split at finite <;> cases finite
  · rename_i bounded
    rw [if_neg bounded]
    by_cases least : unpackExponent (Binary.pattern value) = 0#11
    · rw [if_pos least] at mantissa exponent ⊢
      by_cases zero : unpackMantissa (Binary.pattern value) = 0#52
      · rw [dif_pos zero, dif_pos (by rw [mantissa, zero]; rfl)]
      · have nonzero : (Binary.ofFloat value).mantissa ≠ 0 := by
          rw [mantissa]; exact fun none => zero (BitVec.toNat_inj.mp none)
        rw [dif_neg zero, dif_neg nonzero]
        exact finite_congr rfl mantissa.symm (by rw [exponent, least]; rfl)
    · rw [if_neg least] at mantissa exponent ⊢
      rw [dif_neg (by omega)]
      refine finite_congr rfl ?_ ?_
      · rw [mantissa, BitVec.toNat_append, ← Nat.shiftLeft_add_eq_or_of_lt (BitVec.isLt _)]
        rfl
      · rw [exponent]
        rfl

end Bits

theorem isFinite_unpack_iff (bits : BitVec Format.binary64.numBits) :
    (UnpackedFloat.unpack .binary64 bits).isFinite = true ↔ unpackExponent bits ≠ -1#11 := by
  rw [UnpackedFloat.unpack]
  dsimp only
  by_cases top : unpackExponent bits = -1#11
  · rw [if_pos top]
    exact ⟨fun finite => (by split at finite <;> cases finite), fun below => absurd top below⟩
  · rw [if_neg top]
    refine ⟨fun _ => top, fun _ => ?_⟩
    split
    · split <;> rfl
    · rfl

theorem fits_of_isFinite {value : Float} (finite : value.isFinite = true) :
    Binary.Fits (Binary.ofFloat value).mantissa (Binary.ofFloat value).exponent := by
  have mantissa := mantissa_ofFloat value
  have exponent := exponent_ofFloat value
  have fraction := (unpackMantissa (Binary.pattern value)).isLt
  have biased := (unpackExponent (Binary.pattern value)).isLt
  have bounded : (unpackExponent (Binary.pattern value)).toNat ≠ 2047 :=
    fun top => (isFinite_unpack_iff _).mp finite (BitVec.eq_of_toNat_eq top)
  change _ < 2 ^ 52 at fraction
  change _ < 2 ^ 11 at biased
  by_cases least : unpackExponent (Binary.pattern value) = 0#11
  · rw [if_pos least] at mantissa exponent
    exact ⟨by omega, by omega, by omega, .inr exponent⟩
  · have positive : (unpackExponent (Binary.pattern value)).toNat ≠ 0 :=
      fun zero => least (BitVec.eq_of_toNat_eq zero)
    rw [if_neg least] at mantissa exponent
    exact ⟨by omega, by omega, by omega, .inl (by omega)⟩

theorem unpack_of_mantissa_pos {value : Float} (finite : value.isFinite = true)
    (positive : 0 < (Binary.ofFloat value).mantissa) :
    value.toModel.unpack = .finite (Binary.ofFloat value).sign (Binary.ofFloat value).mantissa
      (Binary.ofFloat value).exponent positive := by
  rw [unpack_of_isFinite finite, dif_neg positive.ne']

theorem unpack_of_ofFloat {value : Float} {mantissa : Nat} {exponent : Int} (positive : 0 < mantissa)
    (parts : value.isFinite = true ∧ Binary.ofFloat value = ⟨false, mantissa, exponent⟩) :
    value.toModel.unpack = .finite .positive mantissa exponent positive := by
  obtain ⟨finite, parts⟩ := parts
  rw [unpack_of_mantissa_pos finite (by rw [parts]; exact positive)]
  exact finite_congr (congrArg Binary.sign parts) (congrArg Binary.mantissa parts)
    (congrArg Binary.exponent parts)

theorem ofModel_pack_unpack (value : Float) :
    Float.ofModel (Float.Model.pack value.toModel.unpack) = value := by
  rw [← Float.toBits_inj]
  exact congrArg UInt64.ofBitVec (pack_unpack_of_valid value.toModel.valid)

theorem isFinite_pack_zero (sign : Sign) : (Float.Model.pack (.zero sign)).isFinite = true := by
  cases sign <;> rfl

theorem isFinite_pack_infinity (sign : Sign) : (Float.Model.pack (.infinity sign)).isFinite = false := by
  cases sign <;> rfl

section Pack

variable {sign : Sign} {mantissa : Nat} {exponent : Int} {positive : 0 < mantissa}

theorem pack_finite :
    UnpackedFloat.pack .binary64 (.finite sign mantissa exponent positive) =
      if 972 ≤ exponent then packedInfinity .binary64 sign
      else if mantissa.log2 = 52 then
        packComponents .binary64 sign (BitVec.ofNat 11 (exponent + 1075).toNat) (BitVec.ofNat 52 mantissa)
      else packComponents .binary64 sign 0#11 (BitVec.ofNat 52 mantissa) := by
  have biased : (exponent + (Format.binary64.exponentBias : Nat) + (52 : Nat)).toNat
      = (exponent + 1075).toNat := by
    change (exponent + 1023 + 52).toNat = _
    omega
  have full : mantissa.log2 + 1 = Format.binary64.mantissaBits ↔ mantissa.log2 = 52 := by
    change _ + 1 = 53 ↔ _
    omega
  have above : 2 ^ 11 ≤ (exponent + 1075).toNat + 1 ↔ 972 ≤ exponent := by omega
  rw [UnpackedFloat.pack]
  simp only [biased, full, above]

/-- Packing keeps the numbers of at most the greatest exponent finite, whatever it does to their mantissa. -/
theorem isFinite_pack :
    (Float.Model.pack (.finite sign mantissa exponent positive)).isFinite = true ↔ exponent ≤ 971 := by
  change (UnpackedFloat.unpack .binary64 (UnpackedFloat.pack .binary64 _)).isFinite = true ↔ _
  rw [isFinite_unpack_iff, pack_finite]
  split
  · simp [packedInfinity]
    omega
  · split
    · rw [unpackExponent_packComponents, Ne, ← BitVec.toNat_inj, BitVec.toNat_ofNat]
      change ¬ _ = 2047 ↔ _
      omega
    · rw [unpackExponent_packComponents]
      exact ⟨fun _ => by omega, fun _ => by decide⟩

theorem unpack_pack (fits : Binary.Fits mantissa exponent) :
    (Float.Model.pack (.finite sign mantissa exponent positive)).unpack
      = .finite sign mantissa exponent positive := by
  obtain ⟨mantissa_lt, le_exponent, exponent_le, full⟩ := fits
  change UnpackedFloat.unpack .binary64 (UnpackedFloat.pack .binary64 _) = _
  rw [pack_finite, if_neg (by omega), UnpackedFloat.unpack]
  -- A full mantissa loses its leading bit to the exponent field; any other one has the least exponent.
  by_cases normal : 2 ^ 52 ≤ mantissa
  · have log : mantissa.log2 = 52 := (Nat.log2_eq_iff (by omega)).mpr ⟨normal, mantissa_lt⟩
    have biased : (BitVec.ofNat 11 (exponent + 1075).toNat).toNat = (exponent + 1075).toNat := by
      rw [BitVec.toNat_ofNat]
      omega
    have top : BitVec.ofNat 11 (exponent + 1075).toNat ≠ -1#11 := fun same => by
      have : (exponent + 1075).toNat = 2047 := biased.symm.trans (congrArg BitVec.toNat same)
      omega
    have least : BitVec.ofNat 11 (exponent + 1075).toNat ≠ 0#11 := fun same => by
      have : (exponent + 1075).toNat = 0 := biased.symm.trans (congrArg BitVec.toNat same)
      omega
    simp only [if_pos log, unpackExponent_packComponents, unpackMantissa_packComponents,
      unpackSign_packComponents, Sign.ofBitVec_toBitVec, if_neg top, if_neg least]
    refine finite_congr rfl ?_ ?_
    · rw [BitVec.toNat_append, ← Nat.shiftLeft_add_eq_or_of_lt (BitVec.isLt _), BitVec.toNat_ofNat]
      change 1 * 2 ^ 52 + mantissa % 2 ^ 52 = _
      omega
    · rw [biased]
      change _ - 1075 = exponent
      omega
  · have log : mantissa.log2 ≠ 52 := fun log => normal ((Nat.log2_eq_iff (by omega)).mp log).1
    have fraction : (BitVec.ofNat 52 mantissa).toNat = mantissa := by
      rw [BitVec.toNat_ofNat]
      omega
    have zero : BitVec.ofNat 52 mantissa ≠ 0#52 := fun same => by
      have : mantissa = 0 := fraction.symm.trans (congrArg BitVec.toNat same)
      omega
    have top : (0#11 : BitVec 11) ≠ -1#11 := by decide
    simp only [if_neg log, unpackExponent_packComponents, unpackMantissa_packComponents,
      unpackSign_packComponents, Sign.ofBitVec_toBitVec, if_neg top, if_true, dif_neg zero]
    exact finite_congr rfl fraction (full.resolve_left normal).symm

end Pack

end Verdict.Decimal
