import Verdict.Text.Segments
import Verdict.Decimal.Numeral
import Verdict.Json.Printer
/-!
How rules look at JSON values: the name of their kind, the number and the text that they stand for, and
when two of them are equal.
-/

namespace Verdict.Json

def kindName : Json → String
  | .null => "null"
  | .bool _ => "boolean"
  | .number _ => "number"
  | .string _ => "string"
  | .array _ => "array"
  | .object _ => "object"

/-- The number that a value stands for: a number, or a text that writes a finite one. -/
def asFloat? : Json → Option Float
  | .number value => some value.toFloat
  | .string value => Decimal.readFinite value
  | _ => none

/-- The text of a number. One without fraction below 10²¹ is written without a mark of being a binary64
number. -/
def numberText : Number → String
  | .float value => if value.isWhole && value.value.abs < 1e21 then Decimal.wholeText value else (Number.float value).text
  | value => value.text

mutual

/-- The text that a value stands for. Items of an array are joined by commas, null items as empty texts;
objects are written as JSON. -/
def displayText : Json → String
  | .null => "null"
  | .bool value => if value then "true" else "false"
  | .number value => numberText value
  | .string value => value
  | .array items => String.intercalate "," (displayItems items)
  | .object fields => (Json.object fields).text

def displayItems : List Json → List String
  | [] => []
  | item :: rest => (if item.isNull then "" else item.displayText) :: displayItems rest

end

mutual

/-- Equality of values of one kind: numbers by their binary64 value, arrays item by item, and objects
key by key. -/
def agrees : Json → Json → Bool
  | .null, .null => true
  | .bool left, .bool right => left == right
  | .number left, .number right => left.toFloat == right.toFloat
  | .string left, .string right => left == right
  | .array left, .array right => itemsAgree left right
  | .object left, .object right => left.length == right.length && fieldsAgree left right
  | _, _ => false

/-- Items agree when they are as many and each agrees with the one in its place. -/
def itemsAgree : List Json → List Json → Bool
  | [], [] => true
  | left :: lefts, right :: rights => left.agrees right && itemsAgree lefts rights
  | _, _ => false

def fieldsAgree : List (String × Json) → Fields → Bool
  | [], _ => true
  | (key, left) :: lefts, rights =>
    (match Fields.get? rights key with
      | some right => left.agrees right
      | none => false) && fieldsAgree lefts rights

end

end Verdict.Json
