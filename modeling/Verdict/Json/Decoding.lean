import Verdict.Text.Quoted
import Verdict.Time.Reader
import Verdict.Json.Printer
/-!
Reading typed values out of JSON values. A decoder accepts or names the first thing that is wrong; the
decoders here are for the kinds of value that have no fields of their own.
-/

namespace Verdict

/-- What is wrong with a JSON value that was to be read as something, or with something that was to be written as
one. -/
inductive DecodeError where
  | wrongKind (found : Json) (expected : String)
  | outOfRange (value : Int) (expected : String)
  | missingField (name : String)
  | unknownField (name : String) (known : List String)
  | unknownVariant (name : String) (known : List String)
  | tooFewItems (count : Nat) (expected : String)
  | tooManyItems (count : Nat)
  | notOneKey
  | noForm (kind : String)
  | badTimestamp (fault : Time.ReadFault)
  | keyNotString
  | notFlat (kind : String)
deriving Repr

namespace DecodeError

def foundText : Json → String
  | .null => "null"
  | .bool value => "boolean `" ++ (if value then "true" else "false") ++ "`"
  | .number (.integer value fits) => "integer `" ++ (Number.integer value fits).text ++ "`"
  | .number (.float value) => "floating point `" ++ (Number.float value).text ++ "`"
  | .string text => "string " ++ Text.quoted text
  | .array _ => "sequence"
  | .object _ => "map"

def choiceText (names : List String) : String :=
  match names.map (fun name => "`" ++ name ++ "`") with
  | [] => "nothing"
  | [only] => only
  | [first, second] => first ++ " or " ++ second
  | several => "one of " ++ String.intercalate ", " several

def message : DecodeError → String
  | wrongKind found expected => "invalid type: " ++ foundText found ++ ", expected " ++ expected
  | outOfRange value expected => "invalid value: integer `" ++ toString value ++ "`, expected " ++ expected
  | missingField name => "missing field `" ++ name ++ "`"
  | unknownField name known => "unknown field `" ++ name ++ "`, expected " ++ choiceText known
  | unknownVariant name known => "unknown variant `" ++ name ++ "`, expected " ++ choiceText known
  | tooFewItems count expected => "invalid length " ++ toString count ++ ", expected " ++ expected
  | tooManyItems count => "invalid length " ++ toString count ++ ", expected fewer elements in array"
  | notOneKey => "invalid value: map, expected map with a single key"
  | noForm kind => "data did not match any variant of untagged enum " ++ kind
  | badTimestamp fault => fault.message
  | keyNotString => "key must be a string"
  | notFlat kind => "can only flatten structs and maps (got " ++ kind ++ ")"

end DecodeError

abbrev Decoder (α : Type) := Json → Except DecodeError α

namespace Decoder

def anything : Decoder Json := .ok

def text : Decoder String
  | .string value => .ok value
  | found => .error (.wrongKind found "a string")

def boolean : Decoder Bool
  | .bool value => .ok value
  | found => .error (.wrongKind found "a boolean")

def fields : Decoder Fields
  | .object fields => .ok fields
  | found => .error (.wrongKind found "a map")

/-- A number that is written as an integer and lies between two bounds. -/
def integer (expected : String) (least greatest : Int) : Decoder Int
  | .number (.integer value _) =>
    if least ≤ value ∧ value ≤ greatest then .ok value else .error (.outOfRange value expected)
  | found => .error (.wrongKind found expected)

def int32 : Decoder Int32 := fun value =>
  (integer "i32" (-2147483648) 2147483647 value).map Int32.ofInt

def word16 : Decoder Nat := fun value =>
  (integer "u16" 0 65535 value).map Int.toNat

def word64 : Decoder Nat := fun value =>
  (integer "usize" 0 18446744073709551615 value).map Int.toNat

def timestamp : Decoder Time.Instant
  | .string value => (Time.readTimestamp value).mapError .badTimestamp
  | found => .error (.wrongKind found "an RFC 3339 formatted date and time string")

def nullable (decode : Decoder α) : Decoder (Option α)
  | .null => .ok none
  | value => (decode value).map some

/-- The items in order; the first bad item is reported. -/
def all (decode : Decoder α) : List Json → Except DecodeError (List α)
  | [] => .ok []
  | item :: rest => do
    let value ← decode item
    let values ← all decode rest
    .ok (value :: values)

def list (decode : Decoder α) : Decoder (List α)
  | .array items => all decode items
  | found => .error (.wrongKind found "a sequence")

/-- The value that a name stands for, or the fallback for other names. -/
def named (names : List (String × α)) (fallback : Option α) (name : String) : Except DecodeError α :=
  match names.lookup name, fallback with
  | some value, _ => .ok value
  | none, some value => .ok value
  | none, none => .error (.unknownVariant name (names.map (·.1)))

/-- One of several named values: its name, or an object with the name as its one key and null under it. -/
def variant (names : List (String × α)) (fallback : Option α) : Decoder α
  | .string name => named names fallback name
  | .object [(name, payload)] => do
    let value ← named names fallback name
    if payload.isNull then .ok value else .error (.wrongKind payload "unit")
  | .object _ => .error .notOneKey
  | found => .error (.wrongKind found "string or map")

end Decoder

end Verdict
