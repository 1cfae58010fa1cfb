import Verdict.Decimal.Layout
import Verdict.Json.Basic
/-!
The compact text of JSON values: no spaces, fields in the order in which they stand, and every character
as it is except quotes, backslashes and controls.
-/

namespace Verdict

/-- JSON writes a number with a plain point from 10⁻⁵ up to 10¹⁶ and marks one without fraction. -/
def Json.numberLayout : Decimal.Layout :=
  ⟨some (-5), some 16, ".0"⟩

def Number.text : Number → String
  | .integer value _ => toString value
  | .float value => Json.numberLayout.text value

namespace Json

def escaped (character : Char) : List Char :=
  if character = '\x22' then ['\\', '\x22']
  else if character = '\\' then ['\\', '\\']
  else if character = '\x08' then ['\\', 'b']
  else if character = '\x0c' then ['\\', 'f']
  else if character = '\n' then ['\\', 'n']
  else if character = '\r' then ['\\', 'r']
  else if character = '\t' then ['\\', 't']
  else if character.toNat < 32 then '\\' :: 'u' :: Text.zeroPadded 4 (Nat.toDigits 16 character.toNat)
  else [character]

def quote (text : String) : String :=
  String.ofList ('\x22' :: (text.toList.flatMap escaped ++ ['\x22']))

mutual

def text : Json → String
  | .null => "null"
  | .bool value => if value then "true" else "false"
  | .number value => value.text
  | .string value => quote value
  | .array items => "[" ++ String.intercalate "," (itemTexts items) ++ "]"
  | .object fields => "\x7b" ++ String.intercalate "," (fieldTexts fields) ++ "\x7d"

def itemTexts : List Json → List String
  | [] => []
  | item :: rest => item.text :: itemTexts rest

def fieldTexts : List (String × Json) → List String
  | [] => []
  | (key, value) :: rest => (quote key ++ ":" ++ value.text) :: fieldTexts rest

end

end Json

end Verdict
