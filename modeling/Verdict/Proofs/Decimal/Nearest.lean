import Mathlib
/-!
Integers cut to 53 bits. One of at most 53 bits stays itself; of a longer one the first 53 bits are kept, and the
rest decides which way it is rounded, halves going to the even neighbour. So the order of integers is never turned
round, but different long integers may become one.
-/

namespace Verdict.Decimal

/-- A number in units of 2 ^ places, rounded to the nearest whole one, halves to the even one. -/
def halfEven (number places : Nat) : Nat :=
  if 2 * (number % 2 ^ places) < 2 ^ places then number / 2 ^ places
  else if 2 ^ places < 2 * (number % 2 ^ places) then number / 2 ^ places + 1
  else number / 2 ^ places + number / 2 ^ places % 2

/-- The places that a number has beyond 53 bits. -/
def surplus (number : Nat) : Nat :=
  number.log2 - 52

/-- A natural number with its first 53 bits only, rounded to nearest. -/
def nearestNat (number : Nat) : Nat :=
  halfEven number (surplus number) * 2 ^ surplus number

/-- An integer with the first 53 bits of its absolute value only, rounded to nearest. -/
def nearest : Int → Int
  | .ofNat number => nearestNat number
  | .negSucc number => -nearestNat (number + 1)

section HalfEven

variable {number other places : Nat}

theorem halfEven_zero (number : Nat) : halfEven number 0 = number := by
  simp [halfEven, Nat.mod_one]

theorem le_halfEven (number places : Nat) : number / 2 ^ places ≤ halfEven number places := by
  rw [halfEven]
  split
  · exact Nat.le_refl _
  · split <;> omega

theorem halfEven_le (number places : Nat) : halfEven number places ≤ number / 2 ^ places + 1 := by
  rw [halfEven]
  split
  · omega
  · split <;> omega

theorem halfEven_mono (below : number ≤ other) : halfEven number places ≤ halfEven other places := by
  obtain apart | same := (Nat.div_le_div_right (c := 2 ^ places) below).lt_or_eq
  · exact (halfEven_le number places).trans ((Nat.succ_le_of_lt apart).trans (le_halfEven other places))
  · have rest : number % 2 ^ places ≤ other % 2 ^ places := by
      have split := Nat.div_add_mod number (2 ^ places)
      have split' := Nat.div_add_mod other (2 ^ places)
      rw [same] at split
      omega
    simp only [halfEven, same]
    split <;> split <;> (try split) <;> (try split) <;> omega

/-- Zeros appended to a number do not matter to how it is rounded. -/
theorem halfEven_mul_two_pow (number places zeros : Nat) :
    halfEven (number * 2 ^ zeros) (places + zeros) = halfEven number places := by
  have positive := Nat.two_pow_pos zeros
  have quotient : number * 2 ^ zeros / 2 ^ (places + zeros) = number / 2 ^ places := by
    rw [Nat.pow_add, Nat.mul_div_mul_right _ _ positive]
  have remainder : number * 2 ^ zeros % 2 ^ (places + zeros) = number % 2 ^ places * 2 ^ zeros := by
    rw [Nat.pow_add, Nat.mul_mod_mul_right]
  have less : 2 * (number % 2 ^ places * 2 ^ zeros) < 2 ^ places * 2 ^ zeros ↔
      2 * (number % 2 ^ places) < 2 ^ places := by
    rw [← Nat.mul_assoc, Nat.mul_lt_mul_right positive]
  have greater : 2 ^ places * 2 ^ zeros < 2 * (number % 2 ^ places * 2 ^ zeros) ↔
      2 ^ places < 2 * (number % 2 ^ places) := by
    rw [← Nat.mul_assoc, Nat.mul_lt_mul_right positive]
  rw [halfEven, halfEven, quotient, remainder, Nat.pow_add]
  simp only [less, greater]

end HalfEven

section Nearest

variable {number other : Nat}

theorem log2_mono (below : number ≤ other) : number.log2 ≤ other.log2 := by
  by_cases zero : number = 0
  · simp [zero]
  · exact (Nat.le_log2 (by omega)).mpr ((Nat.log2_self_le zero).trans below)

theorem nearestNat_of_log2_le (short : number.log2 ≤ 52) : nearestNat number = number := by
  rw [nearestNat, surplus, Nat.sub_eq_zero_of_le short, halfEven_zero, Nat.pow_zero, Nat.mul_one]

/-- Of a number with at least 53 bits so many are kept, or the next power of two is reached. -/
theorem halfEven_surplus (long : 52 ≤ number.log2) :
    2 ^ 52 ≤ halfEven number (surplus number) ∧ halfEven number (surplus number) ≤ 2 ^ 53 := by
  have positive : number ≠ 0 := fun zero => by simp [zero] at long
  have least := Nat.log2_self_le positive
  have most := @Nat.lt_log2_self number
  rw [show number.log2 = 52 + surplus number by rw [surplus]; omega, Nat.pow_add] at least
  rw [show number.log2 + 1 = surplus number + 53 by rw [surplus]; omega, Nat.pow_add] at most
  constructor
  · exact ((Nat.le_div_iff_mul_le (Nat.two_pow_pos _)).mpr least).trans (le_halfEven number _)
  · exact (halfEven_le number _).trans (Nat.div_lt_of_lt_mul most)

theorem two_pow_log2_le_nearestNat (positive : 0 < number) : 2 ^ number.log2 ≤ nearestNat number := by
  obtain short | long := Nat.le_total number.log2 52
  · rw [nearestNat_of_log2_le short]
    exact Nat.log2_self_le positive.ne'
  · rw [show number.log2 = 52 + surplus number by rw [surplus]; omega, Nat.pow_add, nearestNat]
    exact Nat.mul_le_mul_right _ (halfEven_surplus long).1

theorem nearestNat_le_two_pow (number : Nat) : nearestNat number ≤ 2 ^ (number.log2 + 1) := by
  obtain short | long := Nat.le_total number.log2 52
  · rw [nearestNat_of_log2_le short]
    exact Nat.lt_log2_self.le
  · rw [show number.log2 + 1 = 53 + surplus number by rw [surplus]; omega, Nat.pow_add, nearestNat]
    exact Nat.mul_le_mul_right _ (halfEven_surplus long).2

theorem nearestNat_mono (below : number ≤ other) : nearestNat number ≤ nearestNat other := by
  obtain shorter | same := (log2_mono below).lt_or_eq
  · have positive : 0 < other := Nat.pos_of_ne_zero (fun zero => by simp [zero] at shorter)
    calc nearestNat number ≤ 2 ^ (number.log2 + 1) := nearestNat_le_two_pow number
      _ ≤ 2 ^ other.log2 := Nat.pow_le_pow_right (by decide) shorter
      _ ≤ nearestNat other := two_pow_log2_le_nearestNat positive
  · have places : surplus number = surplus other := by rw [surplus, surplus, same]
    rw [nearestNat, nearestNat, places]
    exact Nat.mul_le_mul_right _ (halfEven_mono below)

/-- A number stays itself exactly if its surplus bits are all zero. -/
theorem nearestNat_eq_self_iff (number : Nat) : nearestNat number = number ↔ 2 ^ surplus number ∣ number := by
  rw [nearestNat]
  constructor
  · intro same
    exact Dvd.intro_left _ same
  · intro divides
    have exact : halfEven number (surplus number) = number / 2 ^ surplus number := by
      rw [halfEven, Nat.mod_eq_zero_of_dvd divides, if_pos (Nat.two_pow_pos _)]
    rw [exact, Nat.div_mul_cancel divides]

theorem nearestNat_of_le (small : number ≤ 2 ^ 53) : nearestNat number = number := by
  obtain less | rfl := small.lt_or_eq
  · by_cases zero : number = 0
    · rw [zero]
      decide
    · exact nearestNat_of_log2_le (Nat.lt_succ_iff.mp ((Nat.log2_lt zero).mpr less))
  · rw [nearestNat_eq_self_iff, surplus, Nat.log2_two_pow]
    decide

theorem halfEven_mul_near (number places : Nat) :
    2 * (halfEven number places * 2 ^ places) ≤ 2 * number + 2 ^ places ∧
      2 * number ≤ 2 * (halfEven number places * 2 ^ places) + 2 ^ places := by
  have parts := Nat.div_add_mod' number (2 ^ places)
  have low := Nat.mod_lt number (Nat.two_pow_pos places)
  rw [halfEven]
  split
  · omega
  · split
    · rw [Nat.add_mul, Nat.one_mul]
      omega
    · obtain even | odd := Nat.mod_two_eq_zero_or_one (number / 2 ^ places)
      · rw [even, Nat.add_zero]
        omega
      · rw [odd, Nat.add_mul, Nat.one_mul]
        omega

/-- Nothing is rounded by more than half of the last place that is kept. -/
theorem two_mul_nearestNat_sub_le (number : Nat) :
    2 * |(nearestNat number : Int) - number| ≤ 2 ^ surplus number := by
  obtain ⟨upper, lower⟩ := halfEven_mul_near number (surplus number)
  rw [← nearestNat] at upper lower
  have unit : ((2 ^ surplus number : Nat) : Int) = 2 ^ surplus number := by push_cast; rfl
  rw [← unit]
  obtain ⟨apart, -⟩ | ⟨apart, -⟩ := abs_cases ((nearestNat number : Int) - number) <;> omega

/-- A number of 54 bits is rounded to an even one, of which the half is even where two are as near. -/
theorem nearestNat_of_54_bits (long : 2 ^ 53 ≤ number) (short : number < 2 ^ 54) :
    (number % 4 = 1 → nearestNat number + 1 = number) ∧ (number % 4 = 3 → nearestNat number = number + 1) ∧
      (number % 2 = 0 → nearestNat number = number) := by
  have bits : number.log2 = 53 := (Nat.log2_eq_iff (by omega)).2 ⟨long, short⟩
  rw [nearestNat, surplus, bits, halfEven]
  split
  · omega
  · split <;> omega

end Nearest

section Signed

variable {number other : Int}

theorem nearest_mono (below : number ≤ other) : nearest number ≤ nearest other := by
  cases number with
  | ofNat number =>
    cases other with
    | ofNat other => exact Int.ofNat_le.mpr (nearestNat_mono (Int.ofNat_le.mp below))
    | negSucc other => exact absurd below (Int.not_le.mpr ((Int.negSucc_lt_zero other).trans_le (Int.natCast_nonneg number)))
  | negSucc number =>
    cases other with
    | ofNat other => exact (neg_nonpos.mpr (Int.natCast_nonneg _)).trans (Int.natCast_nonneg _)
    | negSucc other =>
      have shorter : other + 1 ≤ number + 1 := by omega
      exact neg_le_neg (Int.ofNat_le.mpr (nearestNat_mono shorter))

theorem nearest_of_nearestNat (kept : nearestNat number.natAbs = number.natAbs) : nearest number = number := by
  cases number with
  | ofNat number => exact congrArg Int.ofNat kept
  | negSucc number =>
    have kept : nearestNat (number + 1) = number + 1 := kept
    rw [nearest, kept]
    rfl

theorem nearest_of_natAbs_le (small : number.natAbs ≤ 2 ^ 53) : nearest number = number :=
  nearest_of_nearestNat (nearestNat_of_le small)

theorem two_mul_nearest_sub_le (number : Int) :
    2 * |nearest number - number| ≤ 2 ^ surplus number.natAbs := by
  cases number with
  | ofNat number => exact two_mul_nearestNat_sub_le number
  | negSucc number =>
    have mirrored : nearest (.negSucc number) - .negSucc number =
        -((nearestNat (number + 1) : Int) - (number + 1 : Nat)) := by
      rw [nearest, Int.negSucc_eq]
      push_cast
      ring
    rw [mirrored, abs_neg]
    exact two_mul_nearestNat_sub_le (number + 1)

theorem nearest_of_54_bits (long : 2 ^ 53 ≤ number.natAbs) (short : number.natAbs < 2 ^ 54) :
    (number % 4 = 1 → nearest number = number - 1) ∧ (number % 4 = 3 → nearest number = number + 1) ∧
      (number % 2 = 0 → nearest number = number) := by
  have magnitude := nearestNat_of_54_bits long short
  cases number with
  | ofNat number =>
    rw [nearest, Int.ofNat_eq_natCast]
    rw [Int.natAbs_ofNat'] at magnitude
    omega
  | negSucc number =>
    rw [nearest, Int.negSucc_eq]
    rw [Int.natAbs_negSucc, Nat.succ_eq_add_one] at magnitude
    omega

/-- Integers of 64 bits that become one number are close together. -/
theorem abs_sub_le_of_nearest_eq (small : number.natAbs < 2 ^ 64) (small' : other.natAbs < 2 ^ 64)
    (same : nearest number = nearest other) : |number - other| ≤ 2048 := by
  have near {integer : Int} (small : integer.natAbs < 2 ^ 64) : |nearest integer - integer| ≤ 1024 := by
    have bits : integer.natAbs.log2 ≤ 63 := by
      by_cases zero : integer.natAbs = 0
      · simp [zero]
      · exact Nat.lt_succ_iff.mp ((Nat.log2_lt zero).mpr small)
    have unit : (2 : Int) ^ surplus integer.natAbs ≤ 2 ^ 11 :=
      pow_le_pow_right₀ (by decide) (by rw [surplus]; omega)
    have := two_mul_nearest_sub_le integer
    omega
  have left := abs_le.mp (near small)
  have right := abs_le.mp (near small')
  rw [abs_le]
  omega

end Signed

end Verdict.Decimal
