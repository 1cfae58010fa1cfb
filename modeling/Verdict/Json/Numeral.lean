import Verdict.Decimal.Numeral
import Verdict.Json.Basic
/-!
The value of a JSON numeral. The digits of the significand are kept as long as they fit a 64 bit word; a
numeral with a point, an exponent or more digits is that word scaled once by a power of ten.
-/

namespace Verdict.Json

/-- Appends digits to a number as long as it stays below a limit, and gives the digits from the first
one that would not. -/
def extendBelow (limit : Nat) : (word : Nat) → (digits : List Char) → Nat × List Char
  | word, [] => (word, [])
  | word, digit :: rest =>
    let next := 10 * word + Text.digitValue digit
    if next < limit then extendBelow limit next rest else (word, digit :: rest)

def largestPower : Nat := 308

def powerOfTen (exponent : Nat) : Float :=
  Decimal.nearestFloat 1 exponent

/-- A word times or divided by a power of ten, each step rounded; none beyond the finite numbers. Two
divisions by the greatest power leave zero. -/
def scaled (word : Nat) (exponent : Int) : Option Float :=
  let start := Float.ofNat word
  let magnitude := exponent.natAbs
  if 0 ≤ exponent then
    if magnitude ≤ largestPower then (some (start * powerOfTen magnitude)).filter Float.isFinite
    else if word = 0 then some start
    else none
  else if magnitude ≤ largestPower then some (start / powerOfTen magnitude)
  else if magnitude ≤ 2 * largestPower then
    some (start / powerOfTen largestPower / powerOfTen (magnitude - largestPower))
  else some 0

/-- The parts of a numeral as written: sign, digits before the point, and, if there is a point or an
exponent, the digits after the point and the exponent. -/
structure Numeral where
  negative : Bool
  whole : List Char
  fraction : Option (List Char)
  power : Option Int

namespace Numeral

def signed (numeral : Numeral) (value : Float) : Float :=
  if numeral.negative then -value else value

/-- The value of a numeral. A whole numeral is an integer if it fits; minus zero is not an integer. -/
def value (numeral : Numeral) : Option Number :=
  let (word, beyond) := extendBelow Text.wordLimit 0 numeral.whole
  let exact := beyond.isEmpty && numeral.fraction.isNone && numeral.power.isNone
  if exact && !numeral.negative then Number.ofInt? word
  else if exact && 0 < word && word ≤ 9223372036854775808 then Number.ofInt? (-word)
  else
    let digits := numeral.fraction.getD []
    let (significand, dropped) := extendBelow Text.wordLimit word digits
    let exponent := (beyond.length : Int) - ((digits.length - dropped.length : Nat) : Int)
    ((scaled significand (exponent + numeral.power.getD 0)).map numeral.signed).bind Number.ofFloat?

end Numeral

end Verdict.Json
