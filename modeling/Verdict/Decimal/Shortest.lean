import Verdict.Decimal.Binary
/-!
The shortest decimal of a binary number: of all decimals that lie in the interval of reals that round to
the number, one with the fewest digits, and of those the nearest.
-/

namespace Verdict.Decimal

/-- The decimal digits · 10 ^ exponent. -/
structure Scientific where
  digits : Nat
  exponent : Int
deriving DecidableEq, Repr

/-- The interval of reals that round to a number, its bounds and the number itself counted in quarters of
2 ^ exponent. The bounds belong to the interval when the mantissa is even. -/
structure RoundingInterval where
  low : Nat
  middle : Nat
  high : Nat
  closed : Bool
  exponent : Int

/-- The interval reaches half a step up and half a step down; below a power of two the step is half as
wide, unless the number is the least normal one. -/
def Binary.roundingInterval (number : Binary) : RoundingInterval :=
  let narrow := number.mantissa == 4503599627370496 && number.exponent > -1074
  { low := 4 * number.mantissa - (if narrow then 1 else 2)
    middle := 4 * number.mantissa
    high := 4 * number.mantissa + 2
    closed := number.mantissa % 2 == 0
    exponent := number.exponent - 2 }

namespace RoundingInterval

/-- What one quarter step is multiplied with to compare it with points of the grid 10 ^ power. -/
def stepScale (interval : RoundingInterval) (power : Int) : Nat :=
  Nat.pow 2 interval.exponent.toNat * Nat.pow 10 (-power).toNat

/-- What one point of the grid 10 ^ power is multiplied with to compare it with quarter steps. -/
def gridScale (interval : RoundingInterval) (power : Int) : Nat :=
  Nat.pow 2 (-interval.exponent).toNat * Nat.pow 10 power.toNat

def contains (interval : RoundingInterval) (power : Int) (digits : Nat) : Bool :=
  let point := digits * interval.gridScale power
  let low := interval.low * interval.stepScale power
  let high := interval.high * interval.stepScale power
  if interval.closed then low ≤ point && point ≤ high else low < point && point < high

/-- The point of the grid 10 ^ power below the number and the one above it, those that lie in the
interval. Of two the nearer is taken, and on a tie the even one. -/
def pointOn (interval : RoundingInterval) (power : Int) : Option Nat :=
  let middle := interval.middle * interval.stepScale power
  let scale := interval.gridScale power
  let below := middle / scale
  let above := below + 1
  match interval.contains power below, interval.contains power above with
  | true, true =>
    let down := middle - below * scale
    let up := above * scale - middle
    if down < up then some below
    else if up < down then some above
    else some (if below % 2 == 0 then below else above)
  | true, false => some below
  | false, true => some above
  | false, false => none

def search (interval : RoundingInterval) : (attempts : Nat) → (power : Int) → Scientific
  | 0, power => ⟨0, power⟩
  | attempts + 1, power =>
    match interval.pointOn power with
    | some digits => ⟨digits, power⟩
    | none => interval.search attempts (power - 1)

end RoundingInterval

/-- The shortest decimal of a number. The search starts at a power of ten above the number, and eighteen
digits tell all binary64 numbers apart. -/
def Binary.shortest (number : Binary) : Scientific :=
  if number.mantissa = 0 then ⟨0, 0⟩
  else
    let bits : Int := number.mantissa.log2 + number.exponent
    number.roundingInterval.search 24 (bits * 30103 / 100000 + 2)

end Verdict.Decimal
