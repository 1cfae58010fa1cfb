import Verdict.Text.Digits
import Verdict.Time.Calendar
/-!
Instants of universal time with a resolution of nanoseconds, the span between two of them, and their
text.
-/

namespace Verdict.Time

/-- A point in time: whole seconds from the start of 1970 and nanoseconds. Nanoseconds from 10⁹ up lie in
a leap second after that second. -/
structure Instant where
  second : Int
  nanosecond : Nat
deriving DecidableEq, Repr, Inhabited

namespace Instant

def ofDate (date : Date) (secondOfDay : Int) (nanosecond : Nat) : Instant :=
  ⟨date.dayNumber * 86400 + secondOfDay, nanosecond⟩

def dayNumber (instant : Instant) : Int :=
  instant.second / 86400

def secondOfDay (instant : Instant) : Nat :=
  (instant.second % 86400).toNat

/-- The nanoseconds from one instant to another. A leap second between the two times of day counts when
the instant before it lies in that second. -/
def since (later earlier : Instant) : Int :=
  let seconds := later.second - earlier.second
  let leap : Int :=
    if earlier.secondOfDay < later.secondOfDay && 1000000000 ≤ earlier.nanosecond then 1
    else if later.secondOfDay < earlier.secondOfDay && 1000000000 ≤ later.nanosecond then -1
    else 0
  (seconds + leap) * 1000000000 + ((later.nanosecond : Int) - (earlier.nanosecond : Int))

/-- The whole milliseconds from one instant to another; what is left of a millisecond is dropped. -/
def millisecondsSince (later earlier : Instant) : Int :=
  (later.since earlier).tdiv 1000000

/-- A year of four digits; years outside them have a sign. -/
def yearText (year : Int) : String :=
  if 0 ≤ year && year ≤ 9999 then Text.padded 4 year.toNat
  else (if year < 0 then "-" else "+") ++ Text.padded 4 year.natAbs

def textWith (fraction : Nat → String) (instant : Instant) : String :=
  let date := Date.ofDayNumber instant.dayNumber
  let inLeapSecond := 1000000000 ≤ instant.nanosecond
  let second := instant.secondOfDay
  let shown := second % 60 + (if inLeapSecond then 1 else 0)
  let nanosecond := if inLeapSecond then instant.nanosecond - 1000000000 else instant.nanosecond
  yearText date.year ++ "-" ++ Text.padded 2 date.month ++ "-" ++ Text.padded 2 date.day ++ "T" ++
    Text.padded 2 (second / 3600) ++ ":" ++ Text.padded 2 (second / 60 % 60) ++ ":" ++
    Text.padded 2 shown ++ fraction nanosecond ++ "Z"

/-- The fewest of no, three, six or nine digits that lose nothing of a fraction of a second. -/
def exactFraction (nanosecond : Nat) : String :=
  if nanosecond = 0 then ""
  else if nanosecond % 1000000 = 0 then "." ++ Text.padded 3 (nanosecond / 1000000)
  else if nanosecond % 1000 = 0 then "." ++ Text.padded 6 (nanosecond / 1000)
  else "." ++ Text.padded 9 nanosecond

def text (instant : Instant) : String :=
  instant.textWith exactFraction

/-- The text of an instant cut to milliseconds, as it is stamped into records. -/
def stamp (instant : Instant) : String :=
  instant.textWith (fun nanosecond => "." ++ Text.padded 3 (nanosecond / 1000000))

end Instant

end Verdict.Time
