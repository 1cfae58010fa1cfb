/-!
Binary numbers taken apart. A finite binary64 number is a sign and a natural mantissa times a power of
two; rounding to a whole number is exact arithmetic on these parts.
-/

namespace Verdict.Decimal

/-- The number ± mantissa · 2 ^ exponent. -/
structure Binary where
  negative : Bool
  mantissa : Nat
  exponent : Int
deriving DecidableEq, Repr

namespace Binary

/-- The parts of a finite binary64 number: one sign bit, eleven bits of exponent and 52 bits of fraction.
Exponent zero has no leading one. -/
def ofFloat (value : Float) : Binary :=
  let bits : Nat := value.toBits.toNat
  let fraction : Nat := bits % 4503599627370496
  let biased : Nat := bits / 4503599627370496 % 2048
  let negative := bits / 9223372036854775808 == 1
  if biased = 0 then ⟨negative, fraction, -1074⟩
  else ⟨negative, 4503599627370496 + fraction, (biased : Int) - 1075⟩

def denominator (number : Binary) : Nat :=
  Nat.pow 2 (-number.exponent).toNat

def numerator (number : Binary) : Nat :=
  number.mantissa * Nat.pow 2 number.exponent.toNat

def isWhole (number : Binary) : Bool :=
  number.numerator % number.denominator == 0

def signed (number : Binary) (magnitude : Nat) : Int :=
  if number.negative then -(magnitude : Int) else magnitude

def truncate (number : Binary) : Int :=
  number.signed (number.numerator / number.denominator)

def ceiling (number : Binary) : Int :=
  if number.negative then -((number.numerator / number.denominator : Nat) : Int)
  else ((number.numerator + number.denominator - 1) / number.denominator : Nat)

/-- The nearest whole number; halves go away from zero. -/
def nearest (number : Binary) : Int :=
  number.signed ((2 * number.numerator + number.denominator) / (2 * number.denominator))

end Binary

def isWhole (value : Float) : Bool :=
  value.isFinite && (Binary.ofFloat value).isWhole

/-- A number rounded to the nearest whole number with halves away from zero. Numbers without fraction and
numbers that are not finite stay as they are. -/
def roundHalfAway (value : Float) : Float :=
  if !value.isFinite || (Binary.ofFloat value).isWhole then value
  else
    let rounded := Float.ofInt (Binary.ofFloat value).nearest
    if (Binary.ofFloat value).negative && rounded == 0 then -rounded else rounded

structure FiniteFloat where
  value : Float
  finite : value.isFinite = true
deriving DecidableEq, Repr

def FiniteFloat.ofFloat? (value : Float) : Option FiniteFloat :=
  if finite : value.isFinite = true then some ⟨value, finite⟩ else none

def FiniteFloat.isWhole (number : FiniteFloat) : Bool :=
  (Binary.ofFloat number.value).isWhole

end Verdict.Decimal
