import Verdict.Text.Digits
import Verdict.Decimal.Shortest
/-!
The written form of a finite number: its shortest decimal laid out by a record of choices, and the plain
form of a number without fraction.
-/

namespace Verdict.Decimal

/-- Where a decimal is written with a plain point and what marks a number without fraction. The bounds
are on the exponent of the first digit. -/
structure Layout where
  plainFrom : Option Int
  plainBelow : Option Int
  wholeMark : String
deriving DecidableEq, Repr

namespace Layout

def isPlain (layout : Layout) (leading : Int) : Bool :=
  layout.plainFrom.all (· ≤ leading) && layout.plainBelow.all (leading < ·)

def plain (layout : Layout) (digits : List Char) (exponent : Int) : List Char :=
  let point := digits.length + exponent
  if 0 ≤ exponent then
    digits ++ List.replicate exponent.toNat '0' ++ layout.wholeMark.toList
  else if 0 < point then
    digits.take point.toNat ++ '.' :: digits.drop point.toNat
  else
    '0' :: '.' :: (List.replicate (-point).toNat '0' ++ digits)

/-- Digits with the point after the first one and a signed exponent. -/
def powered (digits : List Char) (leading : Int) : List Char :=
  let fraction := digits.drop 1
  digits.take 1 ++ (if fraction.isEmpty then [] else '.' :: fraction) ++
    ['e', if leading < 0 then '-' else '+'] ++ Text.decimalDigits leading.natAbs

def text (layout : Layout) (number : FiniteFloat) : String :=
  let binary := Binary.ofFloat number.value
  let decimal := binary.shortest
  let digits := Text.decimalDigits decimal.digits
  let leading := digits.length + decimal.exponent - 1
  let magnitude :=
    if decimal.digits = 0 || layout.isPlain leading then layout.plain digits decimal.exponent
    else powered digits leading
  String.ofList (if binary.negative then '-' :: magnitude else magnitude)

end Layout

/-- In messages a number has a plain point at any size and no mark of being whole. -/
def messageLayout : Layout :=
  ⟨none, none, ""⟩

def wholeText (number : FiniteFloat) : String :=
  let binary := Binary.ofFloat number.value
  let digits := Text.decimalDigits (binary.numerator / binary.denominator)
  String.ofList (if binary.negative then '-' :: digits else digits)

end Verdict.Decimal
