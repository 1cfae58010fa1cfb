import Verdict.Text.Digits
import Verdict.Decimal.Binary
/-!
Numerals: texts that write a decimal number with an optional sign, fraction and exponent, and the binary64
number nearest to what they write.
-/

namespace Verdict.Decimal

/-- The binary64 number nearest to significand · 10 ^ exponent; too large a number gives infinity. -/
def nearestFloat (significand : Nat) (exponent : Int) : Float :=
  Float.ofScientific significand (decide (exponent < 0)) exponent.natAbs

/-- The number written by the digits before and after a point, times a power of ten. -/
def ofDigits (whole fraction : List Char) (exponent : Int) : Float :=
  nearestFloat (Text.decimalValue (whole ++ fraction)) (exponent - fraction.length)

def splitDigits (characters : List Char) : List Char × List Char :=
  (characters.takeWhile Text.isDigit, characters.dropWhile Text.isDigit)

theorem splitDigits_fst_length_le (characters : List Char) :
    (splitDigits characters).1.length ≤ characters.length :=
  (List.takeWhile_prefix Text.isDigit).length_le

theorem splitDigits_length_le (characters : List Char) :
    (splitDigits characters).2.length ≤ characters.length :=
  (List.dropWhile_suffix Text.isDigit).length_le

def splitFraction : List Char → List Char × List Char
  | '.' :: rest => splitDigits rest
  | rest => ([], rest)

/-- The power of ten after the letter of an exponent: an optional sign and at least one digit, to the end
of the text. -/
def readPower (characters : List Char) : Option Int :=
  let (negative, digits) :=
    match characters with
    | '-' :: rest => (true, rest)
    | '+' :: rest => (false, rest)
    | rest => (false, rest)
  if digits.isEmpty || !digits.all Text.isDigit then none
  else some (if negative then -(Text.decimalValue digits : Int) else Text.decimalValue digits)

/-- An unsigned numeral: digits on at least one side of an optional point, then an optional exponent. -/
def readUnsigned (characters : List Char) : Option Float :=
  let (whole, afterWhole) := splitDigits characters
  let (fraction, afterFraction) := splitFraction afterWhole
  if whole.isEmpty && fraction.isEmpty then none
  else
    match afterFraction with
    | [] => some (ofDigits whole fraction 0)
    | letter :: rest =>
      if letter = 'e' || letter = 'E' then (readPower rest).map (ofDigits whole fraction) else none

def readNumeral : List Char → Option Float
  | '-' :: rest => (readUnsigned rest).map (fun value => -value)
  | '+' :: rest => readUnsigned rest
  | characters => readUnsigned characters

def readFinite (text : String) : Option Float :=
  (readNumeral (Text.trim text.toList)).filter Float.isFinite

end Verdict.Decimal
