import Verdict.Json.Decoding
/-!
Values on their way to JSON. A typed value hands a value of JSON to the writer, a sequence, a map with keys of any
kind, or its fields, some of which may be those of another value. The writer refuses a key that is no string, and
to take the fields of what has none.
-/

namespace Verdict

/-- What a typed value hands to the writer. A part of its fields that has no key is a value whose own fields stand in
its place. -/
inductive Content where
  | value (value : Json)
  | sequence (items : List Content)
  | map (entries : List (Content × Content))
  | fields (parts : List (Option String × Content))

namespace Content

def text (text : String) : Content := .value (.string text)

def count (number : Nat) : Content := .value (.ofNat number)

def optional (key : String) (content : Option Content) : List (Option String × Content) :=
  (content.map (fun present => (some key, present))).toList

def key : Content → Except DecodeError String
  | .value (.string text) => .ok text
  | .value (.bool flag) => .ok (if flag then "true" else "false")
  | .value (.number number) => .ok number.text
  | _ => .error .keyNotString

/-- How the writer calls a value that has no fields. -/
def kind : Json → String
  | .null => "unit"
  | .bool _ => "a boolean"
  | .number (.integer _ _) => "an integer"
  | .number (.float _) => "a float"
  | .string _ => "a string"
  | .array _ => "a sequence"
  | .object _ => "a map"

mutual

/-- The value that is written, with the keys of its objects in order. -/
def write : Content → Except DecodeError Json
  | .value json => .ok json
  | .sequence items => (writeAll items).map .array
  | .map entries => (writeEntries entries).map (fun members => .object (Fields.ofEntries members))
  | .fields parts => (writeParts parts).map (fun members => .object (Fields.ofEntries members))

def writeAll : List Content → Except DecodeError (List Json)
  | [] => .ok []
  | item :: rest => do
    let first ← write item
    let others ← writeAll rest
    .ok (first :: others)

def writeEntries : List (Content × Content) → Except DecodeError Fields
  | [] => .ok []
  | (name, content) :: rest => do
    let key ← name.key
    let written ← write content
    let others ← writeEntries rest
    .ok ((key, written) :: others)

def writeParts : List (Option String × Content) → Except DecodeError Fields
  | [] => .ok []
  | (some key, content) :: rest => do
    let written ← write content
    let others ← writeParts rest
    .ok ((key, written) :: others)
  | (none, content) :: rest => do
    let inner ← flatten content
    let others ← writeParts rest
    .ok (inner ++ others)

/-- The fields that stand in place of a value. -/
def flatten : Content → Except DecodeError Fields
  | .value (.object members) => .ok members
  | .value other => .error (.notFlat (kind other))
  | .sequence _ => .error (.notFlat "a sequence")
  | .map entries => writeEntries entries
  | .fields parts => writeParts parts

end

end Content

end Verdict
