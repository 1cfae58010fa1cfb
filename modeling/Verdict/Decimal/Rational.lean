import Mathlib.Algebra.Order.Field.Rat
import Mathlib.Algebra.Order.Group.Abs
import Verdict.Decimal.Binary
/-!
The rational numbers that binary64 numbers stand for, and which one of them is the nearest to a given rational
number.
-/

namespace Verdict.Decimal

namespace Binary

def magnitude (number : Binary) : ℚ :=
  number.mantissa * 2 ^ number.exponent

def value (number : Binary) : ℚ :=
  if number.negative then -number.magnitude else number.magnitude

end Binary

def FiniteFloat.parts (number : FiniteFloat) : Binary :=
  Binary.ofFloat number.value

/-- A number to which no other finite one is nearer; of two that are as near, the one with the even mantissa. -/
structure FiniteFloat.IsNearest (number : FiniteFloat) (exact : ℚ) : Prop where
  least : ∀ other : FiniteFloat, |number.parts.value - exact| ≤ |other.parts.value - exact|
  even : ∀ other : FiniteFloat, other.parts.value ≠ number.parts.value →
    |other.parts.value - exact| = |number.parts.value - exact| → Even number.parts.mantissa

/-- The number half a unit above the greatest finite one, from which on numbers are rounded to infinity. -/
def overflowThreshold : ℚ :=
  2 ^ 1024 - 2 ^ 970

end Verdict.Decimal
