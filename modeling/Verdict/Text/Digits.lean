import Verdict.Text.Blank
/-!
Numbers as digit texts: decimal and hexadecimal digits padded to a width, and the reading of unsigned
decimal numbers below a limit.
-/

namespace Verdict.Text

/-- The decimal digits of a number, most significant first, without leading zeros. -/
def decimalDigits (number : Nat) : List Char :=
  Nat.toDigits 10 number

def zeroPadded (width : Nat) (digits : List Char) : List Char :=
  List.replicate (width - digits.length) '0' ++ digits

def padded (width number : Nat) : String :=
  String.ofList (zeroPadded width (decimalDigits number))

def paddedHex (width number : Nat) : String :=
  String.ofList (zeroPadded width (Nat.toDigits 16 number))

def digitValue (character : Char) : Nat :=
  character.toNat - 48

def decimalValue (digits : List Char) : Nat :=
  digits.foldl (fun value digit => 10 * value + digitValue digit) 0

def hexValue? (character : Char) : Option Nat :=
  if isDigit character then some (character.toNat - 48)
  else if 'a' ≤ character && character ≤ 'f' then some (character.toNat - 87)
  else if 'A' ≤ character && character ≤ 'F' then some (character.toNat - 55)
  else none

inductive UnsignedFault where
  | empty
  | badDigit
  | tooLarge
deriving DecidableEq, Repr

def UnsignedFault.message : UnsignedFault → String
  | .empty => "cannot parse integer from empty string"
  | .badDigit => "invalid digit found in string"
  | .tooLarge => "number too large to fit in target type"

def wordLimit : Nat := 18446744073709551616

/-- Reads digits from the left and stops at the first character that is no digit or at the first
prefix whose value does not fit. -/
def readWordDigits (value : Nat) : List Char → Except UnsignedFault Nat
  | [] => .ok value
  | digit :: rest =>
    if isDigit digit then
      let next := 10 * value + digitValue digit
      if next < wordLimit then readWordDigits next rest else .error .tooLarge
    else .error .badDigit

/-- Reads an unsigned 64 bit number in decimal; one leading plus sign is allowed. -/
def readWord : List Char → Except UnsignedFault Nat
  | [] => .error .empty
  | '+' :: [] => .error .badDigit
  | '+' :: digits => readWordDigits 0 digits
  | digits => readWordDigits 0 digits

end Verdict.Text
