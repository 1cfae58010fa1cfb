import Verdict.Time.Instant
/-!
Reading instants. `readTimestamp` reads the timestamps of configurations, which allow unpadded numbers
and blanks between their parts; `readMoment` reads the dates of records: a strict timestamp, a time of day
without offset, or a bare date.
-/

namespace Verdict.Time

inductive ReadFault where
  | tooShort
  | badCharacter
  | outOfRange
  | tooLong
  | noSuchInstant
deriving DecidableEq, Repr

def ReadFault.message : ReadFault → String
  | .tooShort => "premature end of input"
  | .badCharacter => "input contains invalid characters"
  | .outOfRange => "input is out of range"
  | .tooLong => "trailing input"
  | .noSuchInstant => "no possible date and time matching input"

abbrev Scan := StateT (List Char) (Except ReadFault)

namespace Scan

def fail (fault : ReadFault) : Scan α :=
  fun _ => .error fault

def skipBlanks : Scan Unit :=
  fun text => .ok ((), Text.trimStart text)

def literal (wanted : Char) : Scan Unit
  | [] => .error .tooShort
  | character :: rest => if character = wanted then .ok ((), rest) else .error .badCharacter

/-- Takes at most `most` digits, at least `least` of them, as a number that fits a signed word. -/
def digits (least : Nat) (most : Option Nat) : Scan Nat :=
  fun text =>
    let leading := text.takeWhile Text.isDigit
    let taken := most.elim leading leading.take
    if Text.byteLength text < least then .error .tooShort
    else if taken.length < least then .error .badCharacter
    else if 9223372036854775808 ≤ Text.decimalValue taken then .error .outOfRange
    else .ok (Text.decimalValue taken, text.drop taken.length)

def within (low high value : Nat) : Scan Nat :=
  if low ≤ value && value ≤ high then pure value else fail .outOfRange

/-- A year: up to four digits, or any number of them after a sign. -/
def year : Scan Int := do
  skipBlanks
  let value ←
    match (← get) with
    | '-' :: rest => do
      set rest
      pure (-((← digits 1 none) : Int))
    | '+' :: rest => do
      set rest
      pure ((← digits 1 none) : Int)
    | _ => do pure ((← digits 1 (some 4)) : Int)
  if -2147483648 ≤ value && value < 2147483648 then pure value else fail .outOfRange

def pair (low high : Nat) : Scan Nat := do
  skipBlanks
  within low high (← digits 1 (some 2))

def strictPair (low high : Nat) : Scan Nat := do
  within low high (← digits 2 (some 2))

/-- A fraction of a second in nanoseconds, nothing standing for zero. Digits beyond the ninth are
dropped. -/
def fraction : Scan Nat := do
  match (← get) with
  | '.' :: rest =>
    set rest
    let taken := (rest.takeWhile Text.isDigit).take 9
    let value ← digits 1 (some 9)
    modify (fun text => text.dropWhile Text.isDigit)
    pure (value * Nat.pow 10 (9 - taken.length))
  | _ => pure 0

def separator : Scan Unit
  | [] => .error .tooShort
  | character :: rest =>
    if character = 't' || character = 'T' || character = ' ' then .ok ((), rest)
    else .error .badCharacter

def twoDigits : Scan (Nat × Nat) :=
  fun text =>
    if Text.byteLength text < 2 then .error .tooShort
    else
      match text with
      | first :: second :: rest =>
        if Text.isDigit first && Text.isDigit second then
          .ok ((Text.digitValue first, Text.digitValue second), rest)
        else .error .badCharacter
      | _ => .error .badCharacter

/-- An offset from universal time in seconds: the letter for none, or a sign, hours and minutes with a
given step between them. -/
def offset (between : Scan Unit) : Scan Int := do
  match (← get) with
  | [] => fail .tooShort
  | sign :: rest =>
    set rest
    if sign = 'Z' || sign = 'z' then pure 0
    else
      unless sign = '+' || sign = '-' || sign = '−' do fail .badCharacter
      let (hourTens, hourOnes) ← twoDigits
      between
      let (minuteTens, minuteOnes) ← twoDigits
      if 6 ≤ minuteTens then fail .outOfRange
      let seconds : Int := (hourTens * 10 + hourOnes) * 3600 + (minuteTens * 10 + minuteOnes) * 60
      pure (if sign = '+' then seconds else -seconds)

def colonsAndBlanks : Scan Unit :=
  fun text => .ok ((), text.dropWhile (fun character => character = ':' || Text.isBlank character))

def done : Scan Unit
  | [] => .ok ((), [])
  | _ => .error .tooLong

def run (scan : Scan α) (text : String) : Except ReadFault α :=
  (scan text.toList).map Prod.fst

end Scan

/-- A date and a time of day as written, before it is known that they exist. -/
structure Written where
  date : Date
  hour : Nat
  minute : Nat
  second : Nat
  nanosecond : Nat

/-- The instant that a written date and time name at an offset from universal time. The sixtieth second of
a minute is a leap second. -/
def Written.instant (written : Written) (offset : Int) : Except ReadFault Instant :=
  if !written.date.isValid then .error .outOfRange
  else if offset.natAbs ≥ 86400 then .error .outOfRange
  else
    let isLeap := written.second == 60
    let second := written.hour * 3600 + written.minute * 60 + (if isLeap then 59 else written.second)
    let instant := Instant.ofDate written.date (second - offset)
      (written.nanosecond + (if isLeap then 1000000000 else 0))
    let year := (Date.ofDayNumber instant.dayNumber).year
    if year < firstYear || lastYear < year then .error .noSuchInstant else .ok instant

/-- A date with unpadded numbers; `between` stands before each hyphen. -/
def scanDate (between : Scan Unit) : Scan Date := do
  let year ← Scan.year
  between
  Scan.literal '-'
  let month ← Scan.pair 1 12
  between
  Scan.literal '-'
  let day ← Scan.pair 1 31
  pure ⟨year, month, day⟩

def scanTime (between : Scan Unit) (date : Date) : Scan Written := do
  let hour ← Scan.pair 0 23
  between
  Scan.literal ':'
  let minute ← Scan.pair 0 59
  between
  Scan.literal ':'
  let second ← Scan.pair 0 60
  let nanosecond ← Scan.fraction
  pure ⟨date, hour, minute, second, nanosecond⟩

/-- An offset behind a time of day, or the three letters of universal time in either case. -/
def scanOffset : Scan Int := do
  Scan.skipBlanks
  match (← get) with
  | first :: second :: third :: rest =>
    if [first, second, third].map Char.toUpper = ['U', 'T', 'C'] then
      set rest
      pure 0
    else Scan.offset Scan.colonsAndBlanks
  | _ => Scan.offset Scan.colonsAndBlanks

/-- Reads a timestamp of a configuration: a date, a letter or a blank, a time of day and an offset. -/
def readTimestamp (text : String) : Except ReadFault Instant := do
  let (written, offset) ← Scan.run (do
    let date ← scanDate Scan.skipBlanks
    Scan.separator
    let written ← scanTime Scan.skipBlanks date
    Scan.skipBlanks
    let offset ← scanOffset
    Scan.skipBlanks
    Scan.done
    pure (written, offset)) text
  written.instant offset

/-- Reads a timestamp with padded numbers, nothing between its parts, and an offset within a day. -/
def readStrict (text : String) : Except ReadFault Instant := do
  let (written, offset) ← Scan.run (do
    let year ← Scan.digits 4 (some 4)
    Scan.literal '-'
    let month ← Scan.strictPair 1 12
    Scan.literal '-'
    let day ← Scan.strictPair 1 31
    Scan.separator
    let hour ← Scan.strictPair 0 23
    Scan.literal ':'
    let minute ← Scan.strictPair 0 59
    Scan.literal ':'
    let second ← Scan.strictPair 0 60
    let nanosecond ← Scan.fraction
    let offset ← Scan.offset (Scan.literal ':')
    Scan.done
    pure ((⟨⟨year, month, day⟩, hour, minute, second, nanosecond⟩ : Written), offset)) text
  written.instant offset

def readTimeOfDay (text : String) : Except ReadFault Instant := do
  let written ← Scan.run (do
    let date ← scanDate (pure ())
    Scan.literal 'T'
    let written ← scanTime (pure ()) date
    Scan.done
    pure written) text
  written.instant 0

/-- Reads a date, which stands for its first instant. -/
def readDate (text : String) : Except ReadFault Instant := do
  let date ← Scan.run (do
    let date ← scanDate (pure ())
    Scan.done
    pure date) text
  (⟨date, 0, 0, 0, 0⟩ : Written).instant 0

/-- Reads the date of a record in the first of three forms that fits. -/
def readMoment (text : String) : Option Instant :=
  (readStrict text).toOption.or ((readTimeOfDay text).toOption.or (readDate text).toOption)

end Verdict.Time
