import Mathlib.Tactic
import Verdict.Proofs.Outcome
import Verdict.Time.Reader
/-!
The extent of the calendar. Every instant that is read lies in a year of the calendar, so two instants are never so far
apart that the milliseconds between them need more than 54 bits.
-/

namespace Verdict

theorem Text.decimalValue_lt {digits : List Char} (all : ∀ digit ∈ digits, isDigit digit = true) :
    decimalValue digits < 10 ^ digits.length := by
  induction digits using List.reverseRecOn with
  | nil => decide
  | append_singleton digits digit ih =>
    obtain ⟨others, last⟩ := List.forall_mem_append.1 all
    have small : digitValue digit < 10 := by
      have isDigit := last digit (List.mem_singleton_self digit)
      simp only [Text.isDigit, Bool.and_eq_true, decide_eq_true_eq, Char.le_def, UInt32.le_iff_toNat_le] at isDigit
      have nine : ('9' : Char).val.toNat = 57 := rfl
      have code : digit.toNat = digit.val.toNat := rfl
      rw [digitValue]
      omega
    have := ih others
    rw [decimalValue, List.foldl_append, List.length_append, List.length_singleton, Nat.pow_succ]
    change 10 * decimalValue digits + digitValue digit < _
    omega

namespace Time

/-- An instant in a year of the calendar, with the nanoseconds of one second and at most a leap second behind it. -/
structure Instant.InCalendar (instant : Instant) : Prop where
  firstYear_le : firstYear ≤ (Date.ofDayNumber instant.dayNumber).year
  le_lastYear : (Date.ofDayNumber instant.dayNumber).year ≤ lastYear
  nanosecond_lt : instant.nanosecond < 2000000000

/-- The years of an era, and the first one of the next. -/
theorem year_ofDayNumber (number : Int) :
    400 * ((number + 719468) / 146097) ≤ (Date.ofDayNumber number).year ∧
      (Date.ofDayNumber number).year ≤ 400 * ((number + 719468) / 146097) + 400 := by
  rw [Date.ofDayNumber]
  dsimp only
  have dayOfEra : 0 ≤ (number + 719468) - (number + 719468) / 146097 * 146097 ∧
      (number + 719468) - (number + 719468) / 146097 * 146097 < 146097 := by omega
  generalize (number + 719468) - (number + 719468) / 146097 * 146097 = dayOfEra' at *
  split <;> omega

namespace Instant

variable {later earlier instant : Instant}

theorem InCalendar.dayNumber_bounds (inCalendar : instant.InCalendar) :
    -95839632 ≤ instant.dayNumber + 719468 ∧ instant.dayNumber + 719468 < 95839632 := by
  obtain ⟨first, last, -⟩ := inCalendar
  obtain ⟨low, high⟩ := year_ofDayNumber instant.dayNumber
  rw [firstYear] at first
  rw [lastYear] at last
  omega

/-- The milliseconds between two instants of the calendar. -/
theorem natAbs_millisecondsSince_lt (inCalendar : later.InCalendar) (inCalendar' : earlier.InCalendar) :
    (later.millisecondsSince earlier).natAbs < 2 ^ 54 - 1 := by
  obtain ⟨low, high⟩ := inCalendar.dayNumber_bounds
  obtain ⟨low', high'⟩ := inCalendar'.dayNumber_bounds
  have small := inCalendar.nanosecond_lt
  have small' := inCalendar'.nanosecond_lt
  rw [dayNumber] at low high low' high'
  have bound : (later.since earlier).natAbs < (2 ^ 54 - 1) * 1000000 := by
    rw [since]
    split <;> try split
    all_goals omega
  rw [millisecondsSince, Int.natAbs_tdiv]
  exact (Nat.div_lt_iff_lt_mul (by decide)).2 bound

end Instant

/-- A reading step that succeeds gives something with a property. -/
def Scan.Gives {α : Type} (scan : Scan α) (property : α → Prop) : Prop :=
  ∀ ⦃text value rest⦄, scan text = .ok (value, rest) → property value

namespace Scan

variable {α β : Type} {scan : Scan α} {property : α → Prop} {next : α → Scan β} {property' : β → Prop}

theorem gives_pure {value : α} (holds : property value) : Gives (pure value) property := by
  intro _ _ _ found
  cases found
  exact holds

theorem Gives.bind (gives : scan.Gives property) (later : ∀ value, property value → (next value).Gives property') :
    Gives (scan >>= next) property' := by
  intro text value rest found
  obtain ⟨step, first, second⟩ := Outcome.bind_eq_ok_iff.1 found
  exact later step.1 (gives first) second

/-- A step that what comes later does not depend on. -/
theorem gives_bind (later : ∀ value, (next value).Gives property') : Gives (scan >>= next) property' :=
  @Gives.bind _ _ _ (fun _ => True) _ _ (fun _ _ _ _ => trivial) fun value _ => later value

theorem gives_of_run {text : String} {value : α} (gives : scan.Gives property) (found : scan.run text = .ok value) :
    property value := by
  obtain ⟨step, read, rfl⟩ := Outcome.map_eq_ok_iff.1 found
  exact gives read

theorem digits_eq_ok {least value : Nat} {most : Option Nat} {text rest : List Char}
    (found : digits least most text = .ok (value, rest)) :
    value = Text.decimalValue (most.elim (text.takeWhile Text.isDigit) (text.takeWhile Text.isDigit).take) := by
  rw [digits] at found
  split at found
  · cases found
  · split at found
    · cases found
    · split at found
      · cases found
      · cases found
        rfl

/-- The digits of a fraction of a second, with zeros behind them, are nine. -/
theorem gives_fraction : fraction.Gives (· < 1000000000) := by
  intro text value rest found
  dsimp only [fraction, bind, StateT.bind, get, getThe, MonadStateOf.get, StateT.get, pure, Except.pure,
    Except.bind] at found
  split at found
  · rename_i behind
    change (digits 1 (some 9) behind).bind (fun step =>
      .ok (step.1 * 10 ^ (9 - ((behind.takeWhile Text.isDigit).take 9).length), step.2.dropWhile Text.isDigit)) =
        .ok (value, rest) at found
    cases read : digits 1 (some 9) behind with
    | error => rw [read] at found; cases found
    | ok step =>
      rw [read] at found
      cases found
      rw [digits_eq_ok read]
      change Text.decimalValue ((behind.takeWhile Text.isDigit).take 9) * _ < 10 ^ 9
      have all : ∀ digit ∈ (behind.takeWhile Text.isDigit).take 9, Text.isDigit digit = true :=
        fun digit mem => List.all_eq_true.1 (List.all_takeWhile) digit (List.mem_of_mem_take mem)
      have short := List.length_take_le 9 (behind.takeWhile Text.isDigit)
      generalize (behind.takeWhile Text.isDigit).take 9 = taken at *
      calc Text.decimalValue taken * 10 ^ (9 - taken.length)
          < 10 ^ taken.length * 10 ^ (9 - taken.length) :=
            Nat.mul_lt_mul_of_pos_right (Text.decimalValue_lt all) (by positivity)
        _ = 10 ^ 9 := by rw [← Nat.pow_add]; congr 1; omega
  · cases found
    decide

end Scan

/-- An instant that can be written lies in the calendar. -/
theorem Written.instant_inCalendar {written : Written} {offset : Int} {moment : Instant}
    (small : written.nanosecond < 1000000000) (found : written.instant offset = .ok moment) : moment.InCalendar := by
  rw [Written.instant] at found
  split at found
  · cases found
  · split at found
    · cases found
    · extract_lets isLeap second named year at found
      split at found
      · cases found
      · rename_i years
        simp only [Bool.or_eq_true, decide_eq_true_eq, not_or, not_lt] at years
        obtain rfl := Except.ok.inj found
        refine ⟨years.1, years.2, ?_⟩
        change written.nanosecond + (if isLeap then 1000000000 else 0) < 2000000000
        split <;> omega

/-- The nanoseconds of a time of day are those of a fraction of a second. -/
theorem gives_scanTime (between : Scan Unit) (date : Date) :
    (scanTime between date).Gives (·.nanosecond < 1000000000) := by
  refine Scan.gives_bind fun hour => Scan.gives_bind fun _ => Scan.gives_bind fun _ => Scan.gives_bind fun minute =>
    Scan.gives_bind fun _ => Scan.gives_bind fun _ => Scan.gives_bind fun second => ?_
  exact Scan.gives_fraction.bind fun nanosecond small => Scan.gives_pure small

section Read

variable {text : String} {moment : Instant}

theorem readStrict_inCalendar (found : readStrict text = .ok moment) : moment.InCalendar := by
  obtain ⟨⟨written, offset⟩, scanned, named⟩ := Outcome.bind_eq_ok_iff.1 found
  refine Written.instant_inCalendar (@Scan.gives_of_run _ _ (·.1.nanosecond < 1000000000) _ _ ?_ scanned) named
  refine Scan.gives_bind fun year => Scan.gives_bind fun _ => Scan.gives_bind fun month => Scan.gives_bind fun _ =>
    Scan.gives_bind fun day => Scan.gives_bind fun _ => Scan.gives_bind fun hour => Scan.gives_bind fun _ =>
      Scan.gives_bind fun minute => Scan.gives_bind fun _ => Scan.gives_bind fun second => ?_
  exact Scan.gives_fraction.bind fun nanosecond small => Scan.gives_bind fun offset => Scan.gives_bind fun _ =>
    Scan.gives_pure small

theorem readTimeOfDay_inCalendar (found : readTimeOfDay text = .ok moment) : moment.InCalendar := by
  obtain ⟨written, scanned, named⟩ := Outcome.bind_eq_ok_iff.1 found
  refine Written.instant_inCalendar (@Scan.gives_of_run _ _ (·.nanosecond < 1000000000) _ _ ?_ scanned) named
  refine Scan.gives_bind fun date => Scan.gives_bind fun _ => ?_
  exact (gives_scanTime _ date).bind fun written small => Scan.gives_bind fun _ => Scan.gives_pure small

theorem readDate_inCalendar (found : readDate text = .ok moment) : moment.InCalendar := by
  obtain ⟨date, -, named⟩ := Outcome.bind_eq_ok_iff.1 found
  exact Written.instant_inCalendar (show 0 < 1000000000 by decide) named

/-- The date of a record lies in the calendar, in whichever form it is written. -/
theorem readMoment_inCalendar (found : readMoment text = some moment) : moment.InCalendar := by
  rw [readMoment, Option.or_eq_some_iff, Option.or_eq_some_iff] at found
  obtain strict | ⟨-, timeOfDay | ⟨-, date⟩⟩ := found
  · exact readStrict_inCalendar (Outcome.eq_ok_of_toOption strict)
  · exact readTimeOfDay_inCalendar (Outcome.eq_ok_of_toOption timeOfDay)
  · exact readDate_inCalendar (Outcome.eq_ok_of_toOption date)

end Read

end Time

end Verdict
