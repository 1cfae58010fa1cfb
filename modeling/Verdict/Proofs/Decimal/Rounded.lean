import Verdict.Proofs.Decimal.Conversion
/-!
Numbers rounded to binary64. Products and quotients keep a mantissa of the exact result and two bits that say where
between this mantissa and the next one the result lies. Shifting preserves what they say, so that what remains is the
exact result, rounded to a whole number of units in the last place, halves to the even one.
-/

namespace Verdict.Decimal

open Float.Model Float.Model.UnpackedFloat

/-- Where a number lies between a mantissa and the next one, as the two bits behind the mantissa say. -/
inductive Locates : ExtendedMantissa → ℚ → Prop
  | whole (mantissa : Nat) : Locates ⟨mantissa, false, false⟩ mantissa
  | lower {mantissa : Nat} {number : ℚ} (above : (mantissa : ℚ) < number) (below : number < mantissa + 1 / 2) :
    Locates ⟨mantissa, false, true⟩ number
  | half (mantissa : Nat) : Locates ⟨mantissa, true, false⟩ (mantissa + 1 / 2)
  | upper {mantissa : Nat} {number : ℚ} (above : mantissa + 1 / 2 < number) (below : number < mantissa + 1) :
    Locates ⟨mantissa, true, true⟩ number

namespace Locates

variable {extended : ExtendedMantissa} {number : ℚ}

theorem mantissa_le (locates : Locates extended number) : (extended.mantissa : ℚ) ≤ number := by
  cases locates with
  | whole => exact le_rfl
  | lower above => exact above.le
  | half => exact le_add_of_nonneg_right (by norm_num)
  | upper above => exact (lt_of_le_of_lt (le_add_of_nonneg_right (by norm_num)) above).le

/-- Rounding moves a number by half a unit at most. -/
theorem abs_roundedMantissa_sub_le (locates : Locates extended number) :
    |(extended.roundedMantissa : ℚ) - number| ≤ 1 / 2 := by
  cases locates with
  | whole mantissa =>
    change |(mantissa : ℚ) - mantissa| ≤ 1 / 2
    rw [sub_self, abs_zero]
    norm_num
  | @lower mantissa _ above below =>
    change |(mantissa : ℚ) - number| ≤ 1 / 2
    rw [abs_le]
    constructor <;> linarith
  | half mantissa =>
    change |((mantissa + mantissa % 2 : Nat) : ℚ) - (mantissa + 1 / 2)| ≤ 1 / 2
    obtain even | odd := Nat.mod_two_eq_zero_or_one mantissa
    · rw [even, abs_le]
      constructor <;> norm_num
    · rw [odd, abs_le]
      push_cast
      constructor <;> linarith
  | @upper mantissa _ above below =>
    change |((mantissa + 1 : Nat) : ℚ) - number| ≤ 1 / 2
    rw [abs_le]
    push_cast
    constructor <;> linarith

theorem lt_mantissa_add_one (locates : Locates extended number) : number < extended.mantissa + 1 := by
  cases locates with
  | whole => exact lt_add_one _
  | lower _ below => exact below.trans (by norm_num)
  | half mantissa =>
    change (mantissa : ℚ) + 1 / 2 < mantissa + 1
    linarith
  | upper _ below => exact below

/-- Rounding moves a number by half a unit only to an even one. -/
theorem even_roundedMantissa (locates : Locates extended number)
    (tie : |(extended.roundedMantissa : ℚ) - number| = 1 / 2) : Even extended.roundedMantissa := by
  cases locates with
  | whole mantissa =>
    change |(mantissa : ℚ) - mantissa| = 1 / 2 at tie
    norm_num at tie
  | @lower mantissa _ above below =>
    change |(mantissa : ℚ) - number| = 1 / 2 at tie
    rw [abs_sub_comm, abs_of_pos (by linarith)] at tie
    linarith
  | half mantissa =>
    change Even (mantissa + mantissa % 2)
    rw [Nat.even_iff]
    omega
  | @upper mantissa _ above below =>
    change |((mantissa + 1 : Nat) : ℚ) - number| = 1 / 2 at tie
    push_cast at tie
    rw [abs_of_pos (by linarith)] at tie
    linarith

/-- Shifting by one place halves a number; what the bits say of it stays true. -/
theorem shiftRightOne (locates : Locates extended number) : Locates extended.shiftRightOne (number / 2) := by
  have even (half : Nat) (bit sticky : Bool) :
      (⟨2 * half, bit, sticky⟩ : ExtendedMantissa).shiftRightOne = ⟨half, false, bit || sticky⟩ := by
    simp [ExtendedMantissa.shiftRightOne]
  have odd (half : Nat) (bit sticky : Bool) :
      (⟨2 * half + 1, bit, sticky⟩ : ExtendedMantissa).shiftRightOne = ⟨half, true, bit || sticky⟩ := by
    simp [ExtendedMantissa.shiftRightOne]
    omega
  obtain ⟨mantissa, bit, sticky⟩ := extended
  obtain ⟨half, rfl | rfl⟩ := Nat.even_or_odd' mantissa
  · rw [even]
    generalize shape : 2 * half = mantissa at locates
    have shape' : (mantissa : ℚ) = 2 * half := by rw [← shape]; push_cast; ring
    cases locates with
    | whole =>
      rw [shape', mul_div_cancel_left₀ _ two_ne_zero]
      exact .whole half
    | lower above below => exact .lower (by linarith) (by linarith)
    | half => exact .lower (by linarith) (by linarith)
    | upper above below => exact .lower (by linarith) (by linarith)
  · rw [odd]
    generalize shape : 2 * half + 1 = mantissa at locates
    have shape' : (mantissa : ℚ) = 2 * half + 1 := by rw [← shape]; push_cast; ring
    cases locates with
    | whole =>
      rw [shape', show (2 * half + 1 : ℚ) / 2 = half + 1 / 2 by ring]
      exact .half half
    | lower above below => exact .upper (by linarith) (by linarith)
    | half => exact .upper (by linarith) (by linarith)
    | upper above below => exact .upper (by linarith) (by linarith)

theorem shiftRight (locates : Locates extended number) (places : Nat) :
    Locates (extended >>> places) (number / 2 ^ places) := by
  induction places with
  | zero =>
    rw [pow_zero, div_one]
    exact locates
  | succ places ih =>
    rw [pow_succ, ← div_div]
    exact ih.shiftRightOne

/-- The mantissa of a fraction, with the bits for its remainder. -/
theorem fraction (numerator : Nat) {denominator : Nat} (positive : 0 < denominator) :
    Locates (.ofMantissaAndAccuracy (numerator / denominator)
      (accuracyOfFraction (numerator % denominator) denominator)) ((numerator : ℚ) / denominator) := by
  have positive' : (0 : ℚ) < denominator := Nat.cast_pos.2 positive
  have split : (numerator : ℚ) = (numerator / denominator : Nat) * denominator + (numerator % denominator : Nat) := by
    exact_mod_cast (Nat.div_add_mod' numerator denominator).symm
  have rest := Nat.mod_lt numerator positive
  rw [split]
  generalize numerator / denominator = mantissa
  generalize numerator % denominator = remainder at rest
  rw [add_div, mul_div_cancel_right₀ _ positive'.ne', accuracyOfFraction]
  by_cases none : remainder = 0
  · rw [if_pos none, none, Nat.cast_zero, zero_div, add_zero]
    exact .whole mantissa
  · rw [if_neg none]
    have some : (0 : ℚ) < remainder / denominator := by positivity
    obtain less | same | greater := lt_trichotomy (2 * remainder) denominator
    · rw [compare_lt_iff_lt.2 less]
      have : (remainder : ℚ) / denominator < 1 / 2 := by
        rw [div_lt_div_iff₀ positive' two_pos]
        exact_mod_cast (by omega : remainder * 2 < 1 * denominator)
      exact .lower (by linarith) (by linarith)
    · rw [compare_eq_iff_eq.2 same]
      have : (remainder : ℚ) / denominator = 1 / 2 := by
        rw [div_eq_div_iff positive'.ne' two_ne_zero]
        exact_mod_cast (by omega : remainder * 2 = 1 * denominator)
      rw [this]
      exact .half mantissa
    · rw [compare_gt_iff_gt.2 greater]
      have above : 1 / 2 < (remainder : ℚ) / denominator := by
        rw [div_lt_div_iff₀ two_pos positive']
        exact_mod_cast (by omega : 1 * denominator < remainder * 2)
      have below : (remainder : ℚ) / denominator < 1 := by
        rw [div_lt_one positive']
        exact_mod_cast rest
      exact .upper (by linarith) (by linarith)

end Locates

/-- A number is rounded to the nearest multiple of a unit, halves to the even one. The unit is the one of the last place
of 53 bits, or the least one. -/
structure Rounded (number : ℚ) (multiple : Nat) (unit : Int) : Prop where
  near : |multiple - number / 2 ^ unit| ≤ 1 / 2
  even : |multiple - number / 2 ^ unit| = 1 / 2 → Even multiple
  least : -1074 ≤ unit
  full : 2 ^ 52 ≤ number / 2 ^ unit ∨ unit = -1074
  short : number / 2 ^ unit < 2 ^ 53

theorem overflowThreshold_eq : overflowThreshold = (2 ^ 53 - 1 / 2) * 2 ^ (971 : Int) := by
  have top : (2 : ℚ) ^ 1024 = 2 ^ 53 * 2 ^ 971 := by rw [← pow_add]
  have half : (2 : ℚ) ^ 970 = 1 / 2 * 2 ^ 971 := by
    rw [pow_succ' 2 970, ← mul_assoc, one_div_mul_cancel two_ne_zero, one_mul]
  rw [overflowThreshold, top, half, ← sub_mul]
  rfl

theorem two_pow_lt_overflowThreshold : (2 : ℚ) ^ 1023 < overflowThreshold := by
  have split : (2 : ℚ) ^ 1023 = 2 ^ 52 * 2 ^ 971 := by rw [← pow_add]
  rw [overflowThreshold_eq, split]
  change _ < _ * (2 : ℚ) ^ 971
  exact mul_lt_mul_of_pos_right (by norm_num) (by positivity)

namespace Rounded

variable {number : ℚ} {multiple : Nat} {unit : Int}

theorem multiple_le (rounded : Rounded number multiple unit) : multiple ≤ 2 ^ 53 := by
  have near := (abs_le.1 rounded.near).2
  have short := rounded.short
  have below : (multiple : ℚ) < (2 ^ 53 + 1 : Nat) := by
    push_cast
    linarith
  exact Nat.lt_succ_iff.1 (Nat.cast_lt.1 below)

theorem le_multiple (rounded : Rounded number multiple unit) : 2 ^ 52 ≤ multiple ∨ unit = -1074 := by
  refine rounded.full.imp_left fun full => ?_
  have near := (abs_le.1 rounded.near).1
  have above : ((2 ^ 52 : Nat) : ℚ) < (multiple + 1 : Nat) := by
    push_cast
    linarith
  exact Nat.lt_succ_iff.1 (Nat.cast_lt.1 above)

theorem unit_le (rounded : Rounded number multiple unit) (small : number < overflowThreshold) : unit ≤ 971 := by
  by_contra! above
  have full := rounded.full.resolve_right (by omega)
  refine small.not_ge ?_
  calc overflowThreshold ≤ 2 ^ 53 * 2 ^ (971 : Int) := by
        rw [overflowThreshold_eq]
        gcongr
        norm_num
    _ = 2 ^ 52 * 2 ^ ((971 : Int) + 1) := by
        rw [zpow_add_one₀ two_ne_zero]
        ring
    _ ≤ 2 ^ 52 * 2 ^ unit := by
        gcongr
        · norm_num
        · omega
    _ ≤ number := (le_div_iff₀ (by positivity)).1 full

/-- From the threshold on, numbers are rounded to the next power of two. -/
theorem unit_lt (rounded : Rounded number multiple unit) (small : number < overflowThreshold)
    (carried : multiple = 2 ^ 53) : unit < 971 := by
  have near := (abs_le.1 rounded.near).2
  rw [carried] at near
  push_cast at near
  refine (rounded.unit_le small).lt_of_ne fun top => small.not_ge ?_
  rw [overflowThreshold_eq, ← top, ← le_div_iff₀ (by positivity)]
  linarith

end Rounded

/-- A number of a sign: a zero, or parts that fit. -/
inductive Carries (sign : Sign) : UnpackedFloat → ℚ → Prop
  | zero : Carries sign (.zero sign) 0
  | finite {mantissa : Nat} {exponent : Int} (pos : 0 < mantissa) (fits : Binary.Fits mantissa exponent) :
    Carries sign (.finite sign mantissa exponent pos) (mantissa * 2 ^ exponent)

theorem Carries.stands {unpacked : UnpackedFloat} {value : ℚ} (carries : Carries .positive unpacked value) :
    Stands unpacked value := by
  cases carries with
  | zero => exact .zero _
  | finite pos fits => exact .positive pos fits

theorem Carries.stands_neg {unpacked : UnpackedFloat} {value : ℚ} (carries : Carries .negative unpacked value) :
    Stands unpacked (-value) := by
  cases carries with
  | zero =>
    rw [neg_zero]
    exact .zero _
  | finite pos fits => exact .negative pos fits

section Results

variable {sign sign' : Sign} {mantissa mantissa' : Nat} {exponent exponent' : Int} {accuracy : Accuracy} {number : ℚ}

theorem roundWithAccuracy_of_zero {extended : ExtendedMantissa} {reached : Int}
    (first : shiftToTargetExponent .binary64 mantissa exponent accuracy = (extended, reached))
    (rounded : extended.roundedMantissa = 0) :
    roundWithAccuracy .binary64 sign mantissa exponent accuracy = .zero sign := by
  have none := mantissa_shiftToTargetExponent 0 reached .exact
  rw [Nat.zero_div] at none
  rw [roundWithAccuracy, first]
  dsimp only
  exact dif_pos (by rw [rounded, none])

/-- A located number is rounded to the mantissa of 53 bits, or to the one that goes with the least exponent. -/
theorem Locates.rounded {places : Nat}
    (locates : Locates (ExtendedMantissa.ofMantissaAndAccuracy mantissa accuracy) number)
    (enough : 52 ≤ mantissa.log2 ∨ exponent ≤ -1074)
    (reached : max ((mantissa.log2 : Int) + exponent - 52) (-1074) = exponent + places) :
    Rounded (number * 2 ^ exponent)
      (ExtendedMantissa.ofMantissaAndAccuracy mantissa accuracy >>> places).roundedMantissa (exponent + places) := by
  have located := locates.shiftRight places
  have kept := mantissa_shiftRight (ExtendedMantissa.ofMantissaAndAccuracy mantissa accuracy) places
  rw [mantissa_ofMantissaAndAccuracy] at kept
  have scaled : number * 2 ^ exponent / 2 ^ (exponent + places) = number / 2 ^ places := by
    rw [zpow_add₀ two_ne_zero, zpow_natCast]
    field_simp
  generalize ExtendedMantissa.ofMantissaAndAccuracy mantissa accuracy >>> places = extended at *
  refine ⟨?_, ?_, by omega, ?_, ?_⟩ <;> rw [scaled]
  · exact located.abs_roundedMantissa_sub_le
  · exact located.even_roundedMantissa
  · refine or_iff_not_imp_right.2 fun normal => le_trans ?_ located.mantissa_le
    have nonzero : mantissa ≠ 0 := fun zero => by simp [zero] at enough reached; omega
    have bits : mantissa.log2 = 52 + places := by omega
    have least := Nat.log2_self_le nonzero
    rw [bits, Nat.pow_add] at least
    rw [kept]
    exact_mod_cast (Nat.le_div_iff_mul_le (Nat.two_pow_pos _)).2 least
  · have most : mantissa / 2 ^ places < 2 ^ 53 := by
      apply Nat.div_lt_of_lt_mul
      rw [← Nat.pow_add]
      exact Nat.lt_log2_self.trans_le (Nat.pow_le_pow_right (by decide) (by omega))
    calc number / 2 ^ places < extended.mantissa + 1 := located.lt_mantissa_add_one
      _ ≤ 2 ^ 53 := by
        rw [kept]
        exact_mod_cast most

/-- What the bits behind a mantissa say is enough to round the number to the nearest one of 53 bits, if the mantissa has
so many or its exponent is not above the least. -/
theorem exists_rounded (locates : Locates (ExtendedMantissa.ofMantissaAndAccuracy mantissa accuracy) number)
    (enough : 52 ≤ mantissa.log2 ∨ exponent ≤ -1074) :
    ∃ (multiple : Nat) (unit : Int), Rounded (number * 2 ^ exponent) multiple unit ∧
      (number * 2 ^ exponent < overflowThreshold →
        Carries sign (roundWithAccuracy .binary64 sign mantissa exponent accuracy) (multiple * 2 ^ unit)) := by
  obtain ⟨places, reached⟩ : ∃ places : Nat, max ((mantissa.log2 : Int) + exponent - 52) (-1074) = exponent + places :=
    ⟨(max ((mantissa.log2 : Int) + exponent - 52) (-1074) - exponent).toNat, by omega⟩
  have shifted : shiftToTargetExponent .binary64 mantissa exponent accuracy =
      (ExtendedMantissa.ofMantissaAndAccuracy mantissa accuracy >>> places, exponent + places) := by
    have shift : (exponent + places - exponent).toNat = places := by omega
    unfold shiftToTargetExponent
    rw [targetExponent_eq, reached, shiftToExponent, shift]
  have rounded := locates.rounded enough reached
  generalize ExtendedMantissa.ofMantissaAndAccuracy mantissa accuracy >>> places = extended at *
  refine ⟨_, _, rounded, fun small => ?_⟩
  obtain zero | positive := Nat.eq_zero_or_pos extended.roundedMantissa
  · rw [roundWithAccuracy_of_zero shifted zero, zero, Nat.cast_zero, zero_mul]
    exact .zero
  · obtain ⟨mantissa', exponent', room, pos, fits, same, left⟩ :=
      exists_fits_of_le rounded.le_multiple positive rounded.multiple_le rounded.least (rounded.unit_le small)
        (rounded.unit_lt small)
    rw [roundWithAccuracy_of_shift shifted same left pos fits, same, left, mul_two_pow_mul_zpow]
    exact .finite pos fits

theorem exists_rounded_mul {positive : 0 < mantissa} {positive' : 0 < mantissa'}
    (long : 52 ≤ (mantissa * mantissa').log2) :
    ∃ (multiple : Nat) (unit : Int), Rounded (mantissa * 2 ^ exponent * (mantissa' * 2 ^ exponent')) multiple unit ∧
      (mantissa * 2 ^ exponent * (mantissa' * 2 ^ exponent') < overflowThreshold →
        Carries (sign * sign') (UnpackedFloat.mul .binary64 (.finite sign mantissa exponent positive)
          (.finite sign' mantissa' exponent' positive')) (multiple * 2 ^ unit)) := by
  have whole : Locates (.ofMantissaAndAccuracy (mantissa * mantissa') .exact) (mantissa * mantissa' : Nat) := .whole _
  have product : (mantissa * 2 ^ exponent * (mantissa' * 2 ^ exponent') : ℚ) =
      (mantissa * mantissa' : Nat) * 2 ^ (exponent + exponent') := by
    rw [zpow_add₀ two_ne_zero]
    push_cast
    ring
  rw [product]
  exact exists_rounded whole (.inl long)

theorem log2_div {numerator denominator : Nat} (positive : 0 < denominator)
    (longer : denominator.log2 < numerator.log2) :
    numerator.log2 - denominator.log2 - 1 ≤ (numerator / denominator).log2 ∧
      (numerator / denominator).log2 ≤ numerator.log2 - denominator.log2 := by
  have nonzero : numerator ≠ 0 := fun zero => by simp [zero] at longer
  have least : 2 ^ (numerator.log2 - denominator.log2 - 1) ≤ numerator / denominator := by
    rw [Nat.le_div_iff_mul_le positive]
    calc 2 ^ (numerator.log2 - denominator.log2 - 1) * denominator
        ≤ 2 ^ (numerator.log2 - denominator.log2 - 1) * 2 ^ (denominator.log2 + 1) :=
          Nat.mul_le_mul_left _ Nat.lt_log2_self.le
      _ = 2 ^ numerator.log2 := by rw [← Nat.pow_add]; congr 1; omega
      _ ≤ numerator := Nat.log2_self_le nonzero
  have most : numerator / denominator < 2 ^ (numerator.log2 - denominator.log2 + 1) := by
    apply Nat.div_lt_of_lt_mul
    calc numerator < 2 ^ (numerator.log2 + 1) := Nat.lt_log2_self
      _ = 2 ^ denominator.log2 * 2 ^ (numerator.log2 - denominator.log2 + 1) := by
          rw [← Nat.pow_add]; congr 1; omega
      _ ≤ denominator * 2 ^ (numerator.log2 - denominator.log2 + 1) :=
          Nat.mul_le_mul_right _ (Nat.log2_self_le positive.ne')
  have quotient : numerator / denominator ≠ 0 := (Nat.two_pow_pos _).trans_le least |>.ne'
  exact ⟨(Nat.le_log2 quotient).2 least, Nat.lt_succ_iff.1 ((Nat.log2_lt quotient).2 most)⟩

/-- A quotient is the exact one, rounded. -/
theorem exists_rounded_div {positive : 0 < mantissa} {positive' : 0 < mantissa'} :
    ∃ (multiple : Nat) (unit : Int), Rounded (mantissa * 2 ^ exponent / (mantissa' * 2 ^ exponent')) multiple unit ∧
      (mantissa * 2 ^ exponent / (mantissa' * 2 ^ exponent') < overflowThreshold →
        Carries (sign / sign') (UnpackedFloat.div .binary64 (.finite sign mantissa exponent positive)
          (.finite sign' mantissa' exponent' positive')) (multiple * 2 ^ unit)) := by
  obtain ⟨places, target⟩ : ∃ places : Nat,
      min (exponent - exponent') (Format.binary64.targetExponent
        (totalExponent mantissa exponent - totalExponent mantissa' exponent')) = exponent - exponent' - places :=
    ⟨_, (Int.toNat_of_nonneg (sub_nonneg.2 (min_le_left _ _))).symm ▸ (sub_sub_cancel _ _).symm⟩
  have shift : (exponent - exponent' - (exponent - exponent' - places)).toNat = places := by omega
  have enough : 52 ≤ (mantissa * 2 ^ places / mantissa').log2 ∨ exponent - exponent' - places ≤ -1074 := by
    rw [totalExponent, totalExponent] at target
    change min _ (max (_ - 53) (-1074)) = (_ : Int) at target
    have longer := log2_mul_two_pow positive places
    by_cases low : exponent - exponent' - places ≤ -1074
    · exact .inr low
    · have := log2_div positive' (show mantissa'.log2 < (mantissa * 2 ^ places).log2 by omega)
      omega
  have quotient : (mantissa * 2 ^ exponent / (mantissa' * 2 ^ exponent') : ℚ) =
      (mantissa * 2 ^ places : Nat) / mantissa' * 2 ^ (exponent - exponent' - places) := by
    rw [zpow_sub₀ two_ne_zero, zpow_sub₀ two_ne_zero, zpow_natCast]
    push_cast
    field_simp
  rw [quotient, UnpackedFloat.div, divCore, target, shift, Nat.shiftLeft_eq]
  exact exists_rounded (.fraction _ positive') enough

end Results

end Verdict.Decimal
