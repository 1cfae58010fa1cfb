import Verdict.Proofs.Decimal.Quotient
import Verdict.Proofs.Expression.Evaluation
import Verdict.Proofs.Time.Calendar
/-!
The derived field as a count of days. Every begun day counts; but the time to the date is cut to milliseconds before
it is divided into days, and to 53 bits where it is longer, so that a day that has only just begun is not seen.
-/

namespace Verdict

open Decimal (Binary nearest)
open Time (Instant)

/-- The nanoseconds of a day. -/
def dayLength : Int := 86400000000000

/-- The days from now to a date, with every begun day counted. -/
def begunDays (now date : Instant) : Int :=
  ⌈(date.since now : ℚ) / dayLength⌉

/-- How much of a begun day has to have passed, in nanoseconds, for it to be seen. Before the date less than a
millisecond is lost; far before or behind it the milliseconds are cut to 53 bits, of which the last one is lost. -/
def unseen (span : Int) : Int :=
  if 2 ^ 53 < span.tdiv 1000000 then 2000000
  else if 0 < span then 1000000
  else if span.tdiv 1000000 < -2 ^ 53 then 1000001
  else 0

theorem begunDays_eq (now date : Instant) : begunDays now date = -(-date.since now / dayLength) := by
  have length : (dayLength : ℚ) = (86400000000000 : Nat) := rfl
  rw [begunDays, length, Rat.ceil_intCast_div_natCast]
  rfl

/-- The length of a day in milliseconds is a binary64 number. -/
theorem dayMilliseconds_value :
    (86400000 : Float).isFinite = true ∧ (Binary.ofFloat 86400000).value = (86400000 : Nat) := by
  have parts : (86400000 : Float).isFinite = true ∧
      Binary.ofFloat 86400000 = ⟨false, 86400000 * 2 ^ 26, -26⟩ := by
    decide +kernel
  refine ⟨parts.1, ?_⟩
  rw [parts.2]
  norm_num [Binary.value, Binary.magnitude]

theorem daysUntil_eq_ceil {now date : Instant} (inCalendar : now.InCalendar) (inCalendar' : date.InCalendar) :
    daysUntil now date = ⌈(nearest (date.millisecondsSince now) : ℚ) / (86400000 : Nat)⌉ := by
  have short := Instant.natAbs_millisecondsSince_lt inCalendar' inCalendar
  rw [daysUntil]
  generalize date.millisecondsSince now = milliseconds at short
  obtain ⟨finite, value⟩ := Decimal.value_ofInt (show milliseconds.natAbs < 2 ^ 64 by omega)
  obtain ⟨finite', value'⟩ := dayMilliseconds_value
  obtain few | many := Nat.lt_or_ge milliseconds.natAbs (2 ^ 53)
  · rw [Decimal.nearest_of_natAbs_le few.le] at value ⊢
    exact Decimal.ceiling_div finite finite' value value' (by decide) (one_dvd _) (one_dvd _) (by omega) (by omega)
      (by decide)
  · -- Cut to 53 bits, a longer number is even, as is the length of a day.
    have rounded := Decimal.nearest_of_54_bits many (by omega)
    have even : 2 ∣ (nearest milliseconds).natAbs := by omega
    exact Decimal.ceiling_div finite finite' value value' (by decide) even (by decide) (by omega) (by omega)
      (by decide)

/-- Cutting a time to milliseconds makes it shorter, whichever way it goes. -/
theorem tdiv_bounds (span : Int) :
    (0 ≤ span ∧ 1000000 * span.tdiv 1000000 ≤ span ∧ span < 1000000 * span.tdiv 1000000 + 1000000) ∨
      (span < 0 ∧ span ≤ 1000000 * span.tdiv 1000000 ∧ 1000000 * span.tdiv 1000000 < span + 1000000) := by
  obtain nonnegative | negative := le_or_gt 0 span
  · rw [Int.tdiv_eq_ediv_of_nonneg nonnegative]
    omega
  · rw [← Int.neg_neg span, Int.neg_tdiv, Int.tdiv_eq_ediv_of_nonneg (by omega)]
    omega

/-- A begun day is missed exactly if too little of it has passed. -/
theorem daysUntil_eq {now date : Instant} (inCalendar : now.InCalendar) (inCalendar' : date.InCalendar) :
    daysUntil now date = begunDays now date -
      if 0 < date.since now % dayLength ∧ date.since now % dayLength < unseen (date.since now) then 1 else 0 := by
  have short := Instant.natAbs_millisecondsSince_lt inCalendar' inCalendar
  rw [daysUntil_eq_ceil inCalendar inCalendar', Rat.ceil_intCast_div_natCast, begunDays_eq, dayLength, unseen]
  rw [Instant.millisecondsSince] at short ⊢
  generalize date.since now = span at short ⊢
  have cut := tdiv_bounds span
  generalize span.tdiv 1000000 = milliseconds at *
  push_cast
  obtain few | many := le_or_gt milliseconds.natAbs (2 ^ 53)
  · rw [Decimal.nearest_of_natAbs_le few]
    split_ifs <;> omega
  · -- The length of a day is divisible by four, so a single millisecond of a day is rounded away from an odd number,
    -- and the last one is rounded up.
    have rounded := Decimal.nearest_of_54_bits many.le (by omega)
    generalize nearest milliseconds = kept at *
    split_ifs <;> omega

theorem daysUntil_fits {now date : Instant} (inCalendar : now.InCalendar) (inCalendar' : date.InCalendar) :
    -9223372036854775808 ≤ daysUntil now date ∧ daysUntil now date < 18446744073709551616 := by
  have short := Instant.natAbs_millisecondsSince_lt inCalendar' inCalendar
  rw [daysUntil_eq_ceil inCalendar inCalendar', Rat.ceil_intCast_div_natCast]
  generalize date.millisecondsSince now = milliseconds at short
  obtain few | many := le_or_gt milliseconds.natAbs (2 ^ 53)
  · rw [Decimal.nearest_of_natAbs_le few]
    omega
  · have rounded := Decimal.nearest_of_54_bits many.le (by omega)
    omega

section Lookup

variable {expression : Expr} {record : Record} {now date : Instant} {text : String}
  (mentioned : expression.mentions deliveryDays = true)
  (field : record.get? requiredDeliveryDate = some (.string text)) (read : Time.readMoment text = some date)

include mentioned field read

theorem lookup_of_date :
    (expression.scope record now).lookup deliveryDays = some (Json.ofInt (daysUntil now date)) := by
  have derived : record.derivedDeliveryDays now = some (some (Json.ofInt (daysUntil now date))) := by
    rw [Record.derivedDeliveryDays, field]
    simp only [Json.string?, Option.bind_some, read, Option.map_some]
  rw [Expr.scope, if_pos mentioned, derived, Scope.lookup, beq_self_eq_true]

/-- The derived field is the number of begun days until the date, without the last one if too little of it has passed
to be seen. -/
theorem lookup_deliveryDays (inCalendar : now.InCalendar) :
    ∃ days fits, (expression.scope record now).lookup deliveryDays = some (.number (.integer days fits)) ∧
      days = begunDays now date -
        if 0 < date.since now % dayLength ∧ date.since now % dayLength < unseen (date.since now) then 1 else 0 := by
  have inCalendar' := Time.readMoment_inCalendar read
  have fits := daysUntil_fits inCalendar inCalendar'
  refine ⟨daysUntil now date, fits, ?_, daysUntil_eq inCalendar inCalendar'⟩
  rw [lookup_of_date mentioned field read, Json.ofInt, Number.ofInt?, dif_pos fits]
  rfl

end Lookup

/-- A record with a date. -/
def dated (date : String) : Record :=
  [(requiredDeliveryDate, .string date)]

/-- The noon of the first of March 2024. -/
def noon : Instant :=
  ⟨1709294400, 0⟩

/-- Two days and a half before a date the third day has begun. -/
theorem two_days_and_a_half :
    ∃ fits, ((Expr.identifier deliveryDays).scope (dated "2024-03-04") noon).lookup deliveryDays =
      some (.number (.integer 3 fits)) := by
  have read : Time.readMoment "2024-03-04" = some ⟨1709510400, 0⟩ := rfl
  have inCalendar : noon.InCalendar := ⟨by decide, by decide, by decide⟩
  have mentioned : (Expr.identifier deliveryDays).mentions deliveryDays = true := rfl
  obtain ⟨days, fits, found, same⟩ :=
    @lookup_deliveryDays _ (dated "2024-03-04") _ _ _ mentioned rfl read inCalendar
  have three : days = 3 := by
    rw [same, begunDays_eq]
    decide
  subst three
  exact ⟨fits, found⟩

/-- The noon of the next day and a nanosecond. -/
def afterNoon : String :=
  "2024-03-02T12:00:00.000000001Z"

/-- A nanosecond after a day the second one has begun, but is not seen. -/
theorem nanosecond_unseen :
    ∃ date, Time.readMoment afterNoon = some date ∧ begunDays noon date = 2 ∧
      ∃ fits, ((Expr.identifier deliveryDays).scope (dated afterNoon) noon).lookup deliveryDays =
        some (.number (.integer 1 fits)) := by
  have read : Time.readMoment afterNoon = some ⟨1709380800, 1⟩ := rfl
  have two : begunDays noon ⟨1709380800, 1⟩ = 2 := by
    rw [begunDays_eq]
    decide
  have one : daysUntil noon ⟨1709380800, 1⟩ = 1 := by decide +kernel
  have found := @lookup_of_date (.identifier deliveryDays) (dated afterNoon) noon _ _ rfl rfl read
  rw [one] at found
  exact ⟨_, read, two, by decide, found⟩

end Verdict
