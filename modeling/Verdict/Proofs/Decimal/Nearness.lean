import Verdict.Proofs.Decimal.Rounded
/-!
A number rounded to a multiple of its unit is the nearest finite number. In units of the last place any other finite
number is whole, and then at least as far away, or it is below all numbers of 53 bits. Where it is as far away it has
an odd mantissa, so that no second number is the nearest.
-/

namespace Verdict.Decimal

open Float.Model Float.Model.UnpackedFloat

section Parts

variable {left right : FiniteFloat}

theorem Binary.sign_inj {left right : Binary} : left.sign = right.sign ↔ left.negative = right.negative := by
  rw [Binary.sign, Binary.sign]
  cases left.negative <;> cases right.negative <;> simp

/-- A finite number is known by what it is taken apart into. -/
theorem ofFloat_of_unpack {value : Float} {number : Binary} (finite : value.isFinite = true)
    (fits : Binary.Fits number.mantissa number.exponent)
    (unpacked : value.toModel.unpack =
      if zero : number.mantissa = 0 then .zero number.sign
      else .finite number.sign number.mantissa number.exponent (Nat.pos_of_ne_zero zero)) :
    Binary.ofFloat value = number := by
  have fits' := fits_of_isFinite finite
  rw [unpack_of_isFinite finite] at unpacked
  generalize Binary.ofFloat value = found at fits' unpacked
  have parts : found.sign = number.sign ∧ found.mantissa = number.mantissa ∧ found.exponent = number.exponent := by
    split at unpacked <;> split at unpacked
    · rename_i none none'
      refine ⟨UnpackedFloat.zero.inj unpacked, none.trans none'.symm, ?_⟩
      have := fits.full
      have := fits'.full
      omega
    · cases unpacked
    · cases unpacked
    · exact UnpackedFloat.finite.inj unpacked
  obtain ⟨signs, mantissas, exponents⟩ := parts
  rw [Binary.sign_inj] at signs
  cases found
  cases number
  simp_all

namespace FiniteFloat

theorem fits (number : FiniteFloat) : Binary.Fits number.parts.mantissa number.parts.exponent :=
  fits_of_isFinite number.finite

theorem eq_of_parts_eq (same : left.parts = right.parts) : left = right := by
  have unpacked : left.value.toModel.unpack = right.value.toModel.unpack := by
    rw [unpack_of_isFinite left.finite, unpack_of_isFinite right.finite]
    rw [parts, parts] at same
    simp only [same]
  have values : left.value = right.value := by
    rw [← ofModel_pack_unpack left.value, unpacked, ofModel_pack_unpack]
  cases left
  cases right
  cases values
  rfl

/-- Only the two zeros have one value. -/
theorem eq_of_value_eq (signs : left.parts.negative = right.parts.negative)
    (values : left.parts.value = right.parts.value) : left = right := by
  have magnitudes : left.parts.magnitude = right.parts.magnitude := by
    rw [Binary.value, Binary.value, signs] at values
    split at values
    · exact neg_injective values
    · exact values
  have order := Binary.compare_magnitude left.fits right.fits
  rw [Binary.magnitude, Binary.magnitude] at magnitudes
  rw [compare_eq_iff_eq.2 magnitudes, Ordering.then_eq_eq, compare_eq_iff_eq, compare_eq_iff_eq] at order
  apply eq_of_parts_eq
  generalize left.parts = found at *
  generalize right.parts = number at *
  cases found
  cases number
  simp_all

theorem isNearest_value (number : FiniteFloat) : number.IsNearest number.parts.value := by
  refine ⟨fun other => ?_, fun other apart tie => ?_⟩
  · rw [sub_self, abs_zero]
    exact abs_nonneg _
  · rw [sub_self, abs_zero, abs_eq_zero, sub_eq_zero] at tie
    exact absurd tie apart

/-- A finite number with the other sign. -/
def neg (number : FiniteFloat) : FiniteFloat :=
  ⟨-number.value, isFinite_neg number.finite⟩

theorem parts_neg (number : FiniteFloat) :
    number.neg.parts = { number.parts with negative := !number.parts.negative } := by
  refine ofFloat_of_unpack number.neg.finite number.fits ?_
  have signs : -number.parts.sign = Binary.sign { number.parts with negative := !number.parts.negative } := by
    rw [Binary.sign, Binary.sign]
    cases number.parts.negative <;> rfl
  change (Float.Model.pack number.value.toModel.unpack.neg).unpack = _
  rw [unpack_of_isFinite number.finite, ← signs]
  change (Float.Model.pack (UnpackedFloat.neg (if zero : number.parts.mantissa = 0 then _ else _))).unpack = _
  split
  · exact unpack_packedZero
  · exact unpack_pack number.fits

theorem value_neg (number : FiniteFloat) : number.neg.parts.value = -number.parts.value := by
  rw [parts_neg, Binary.value, Binary.value]
  cases number.parts.negative
  · rfl
  · exact (neg_neg _).symm

theorem IsNearest.neg {number : FiniteFloat} {exact : ℚ} (nearest : number.IsNearest exact) :
    number.neg.IsNearest (-exact) := by
  have mirrored (other : FiniteFloat) : |other.parts.value - -exact| = |other.neg.parts.value - exact| := by
    rw [value_neg, ← abs_neg]
    congr 1
    ring
  have twice : number.neg.neg.parts.value = number.parts.value := by rw [value_neg, value_neg, neg_neg]
  refine ⟨fun other => ?_, fun other apart tie => ?_⟩
  · rw [mirrored, mirrored, twice]
    exact nearest.least other.neg
  · rw [mirrored, mirrored, twice] at tie
    rw [parts_neg]
    refine nearest.even other.neg (fun same => apart ?_) tie
    rw [value_neg, ← same, value_neg, neg_neg]

end FiniteFloat

end Parts

theorem even_signed_iff (number : Binary) (magnitude : Nat) : Even (number.signed magnitude) ↔ Even magnitude := by
  rw [Binary.signed]
  split
  · rw [even_neg, Int.even_coe_nat]
  · exact Int.even_coe_nat magnitude

theorem value_eq_signed (number : Binary) {places : Nat} {unit : Int} (reached : number.exponent = unit + places) :
    number.value = number.signed (number.mantissa * 2 ^ places) * 2 ^ unit := by
  have magnitude : number.magnitude = (number.mantissa * 2 ^ places : Nat) * 2 ^ unit := by
    rw [Binary.magnitude, ← mul_two_pow_mul_zpow number.mantissa places, reached, add_sub_cancel_right]
  rw [Binary.value, Binary.signed, magnitude]
  split <;> push_cast <;> ring

/-- In units of the last place a finite number is whole, or it is small. -/
theorem whole_or_small (number : FiniteFloat) (unit : Int) :
    (∃ whole : Int, number.parts.value = whole * 2 ^ unit ∧ (Even number.parts.mantissa → Even whole)) ∨
      (-1074 < unit ∧ number.parts.value < 2 ^ 52 * 2 ^ unit) := by
  have fits := number.fits
  obtain above | low := le_or_gt unit number.parts.exponent
  · obtain ⟨places, reached⟩ := Int.le.dest above
    refine .inl ⟨_, value_eq_signed number.parts reached.symm, fun even => ?_⟩
    rw [even_signed_iff]
    exact even.mul_right _
  · refine .inr ⟨fits.le_exponent.trans_lt low, ?_⟩
    calc number.parts.value ≤ |number.parts.value| := le_abs_self _
      _ = number.parts.mantissa * 2 ^ number.parts.exponent := Binary.abs_value _
      _ < 2 ^ 53 * 2 ^ number.parts.exponent := by
        gcongr
        exact_mod_cast fits.mantissa_lt
      _ = 2 ^ 52 * 2 ^ (number.parts.exponent + 1) := by rw [zpow_add_one₀ two_ne_zero]; ring
      _ ≤ 2 ^ 52 * 2 ^ unit := by
        gcongr
        · norm_num
        · omega

namespace Rounded

variable {number : ℚ} {multiple : Nat} {unit : Int}

/-- Any other whole number of units is at least as far away. -/
theorem dist_whole (rounded : Rounded number multiple unit) {whole : Int} (other : whole ≠ multiple) :
    |(multiple : ℚ) - number / 2 ^ unit| < |(whole : ℚ) - number / 2 ^ unit| ∨
      (|(multiple : ℚ) - number / 2 ^ unit| = |(whole : ℚ) - number / 2 ^ unit| ∧ Even multiple ∧ ¬ Even whole) := by
  have near := rounded.near
  have even := rounded.even
  generalize number / 2 ^ unit = scaled at *
  have apart : 1 ≤ |whole - (multiple : Int)| := Int.one_le_abs (sub_ne_zero.2 other)
  have apart' : (1 : ℚ) ≤ |(whole : ℚ) - multiple| := by exact_mod_cast apart
  have between : |(whole : ℚ) - multiple| ≤ |(whole : ℚ) - scaled| + |(multiple : ℚ) - scaled| := by
    rw [abs_sub_comm (multiple : ℚ)]
    exact abs_sub_le _ _ _
  obtain less | least := lt_or_ge |(multiple : ℚ) - scaled| |(whole : ℚ) - scaled|
  · exact .inl less
  · have tie : |(multiple : ℚ) - scaled| = 1 / 2 := by linarith
    have neighbour : |(whole : ℚ) - multiple| ≤ 1 := by linarith
    have neighbour' : |whole - (multiple : Int)| ≤ 1 := by exact_mod_cast neighbour
    refine .inr ⟨by linarith, even tie, ?_⟩
    have := even tie
    rw [Int.not_even_iff_odd]
    have one := le_antisymm neighbour' apart
    obtain above | below := abs_eq_abs.1 (one.trans abs_one.symm)
    · rw [sub_eq_iff_eq_add.1 above]
      exact odd_one.add_even ((Int.even_coe_nat _).2 this)
    · rw [sub_eq_iff_eq_add.1 below]
      exact odd_neg_one.add_even ((Int.even_coe_nat _).2 this)

/-- What is below all numbers of 53 bits is farther away than the least of them. -/
theorem dist_small (rounded : Rounded number multiple unit) {value : ℚ} (normal : -1074 < unit)
    (small : value < 2 ^ 52) : |(multiple : ℚ) - number / 2 ^ unit| < |value - number / 2 ^ unit| := by
  have full := rounded.full.resolve_right normal.ne'
  have least : |(multiple : ℚ) - number / 2 ^ unit| ≤ |((2 ^ 52 : Int) : ℚ) - number / 2 ^ unit| := by
    by_cases same : (2 ^ 52 : Int) = multiple
    · rw [same, Int.cast_natCast]
    · obtain less | ⟨tie, -⟩ := rounded.dist_whole same
      · exact less.le
      · exact tie.le
  rw [Int.cast_pow, Int.cast_ofNat, abs_of_nonpos (show (2 ^ 52 : ℚ) - _ ≤ 0 by linarith)] at least
  rw [abs_of_neg (show value - _ < 0 by linarith)]
  linarith

theorem dist_eq (number value : ℚ) (unit : Int) :
    |value * 2 ^ unit - number| = |value - number / 2 ^ unit| * 2 ^ unit := by
  have positive : (0 : ℚ) < 2 ^ unit := by positivity
  rw [← abs_of_pos positive, ← abs_mul, abs_of_pos positive, sub_mul, div_mul_cancel₀ _ positive.ne']

/-- A finite number is the rounded one, or farther away, or as far away with an odd mantissa. -/
theorem dist (rounded : Rounded number multiple unit) (other : FiniteFloat) :
    other.parts.value = multiple * 2 ^ unit ∨
      |multiple * 2 ^ unit - number| < |other.parts.value - number| ∨
      (|multiple * 2 ^ unit - number| = |other.parts.value - number| ∧ Even multiple ∧
        ¬ Even other.parts.mantissa) := by
  have positive : (0 : ℚ) < 2 ^ unit := by positivity
  obtain ⟨whole, value, parity⟩ | ⟨normal, small⟩ := whole_or_small other unit
  · by_cases same : whole = multiple
    · left
      rw [value, same, Int.cast_natCast]
    · right
      rw [value, dist_eq, dist_eq]
      obtain less | ⟨tie, even, odd⟩ := rounded.dist_whole same
      · exact .inl (mul_lt_mul_of_pos_right less positive)
      · exact .inr ⟨congrArg (· * _) tie, even, fun even => odd (parity even)⟩
  · right
    left
    rw [← div_mul_cancel₀ other.parts.value positive.ne', dist_eq, dist_eq]
    exact mul_lt_mul_of_pos_right (rounded.dist_small normal ((div_lt_iff₀ positive).2 small)) positive

variable {float other : FiniteFloat}

theorem even_mantissa (rounded : Rounded number multiple unit) (value : float.parts.value = multiple * 2 ^ unit)
    (even : Even multiple) : Even float.parts.mantissa := by
  have magnitude : (float.parts.mantissa : ℚ) * 2 ^ float.parts.exponent = multiple * 2 ^ unit := by
    rw [← Binary.magnitude, ← Binary.abs_value, value, abs_of_nonneg (by positivity)]
  have fits := float.fits
  generalize float.parts.mantissa = mantissa at *
  generalize float.parts.exponent = exponent at *
  have scale {low high : Int} {places : Nat} (reached : low + places = high) (number : Nat) :
      (number : ℚ) * 2 ^ high = (number * 2 ^ places : Nat) * 2 ^ low := by
    rw [← mul_two_pow_mul_zpow number places, ← reached, add_sub_cancel_right]
  obtain above | below := le_total exponent unit
  · obtain ⟨places, reached⟩ := Int.le.dest above
    rw [scale reached, mul_left_inj' (by positivity), Nat.cast_inj] at magnitude
    rw [magnitude]
    exact even.mul_right _
  · obtain ⟨places, reached⟩ := Int.le.dest below
    rw [scale reached, mul_left_inj' (by positivity), Nat.cast_inj] at magnitude
    obtain rfl | positive := Nat.eq_zero_or_pos places
    · rwa [← magnitude, Nat.pow_zero, Nat.mul_one] at even
    · have most := rounded.multiple_le
      have least := rounded.least
      have full := fits.full.resolve_right (by omega)
      have twice : mantissa * 2 ^ 1 ≤ mantissa * 2 ^ places :=
        Nat.mul_le_mul_left _ (Nat.pow_le_pow_right (by decide) positive)
      have carried : mantissa = 2 ^ 52 := by omega
      rw [carried]
      decide

theorem isNearest (rounded : Rounded number multiple unit) (value : float.parts.value = multiple * 2 ^ unit) :
    float.IsNearest number := by
  refine ⟨fun other => ?_, fun other apart tie => ?_⟩
  · rw [value]
    obtain same | less | ⟨tie, -⟩ := rounded.dist other
    · rw [same]
    · exact less.le
    · exact tie.le
  · rw [value] at apart tie
    obtain same | less | ⟨-, even, -⟩ := rounded.dist other
    · exact absurd same apart
    · exact absurd tie less.ne'
    · exact rounded.even_mantissa value even

/-- No second number is the nearest. -/
theorem value_eq_of_isNearest (rounded : Rounded number multiple unit)
    (value : float.parts.value = multiple * 2 ^ unit) (nearest : other.IsNearest number) :
    other.parts.value = float.parts.value := by
  by_contra apart
  have least := nearest.least float
  have even := nearest.even float (Ne.symm apart)
  rw [value] at apart least even
  obtain same | less | ⟨tie, -, odd⟩ := rounded.dist other
  · exact apart same
  · exact less.not_ge least
  · exact odd (even tie)

end Rounded

end Verdict.Decimal
