import Verdict.Json.Decoding
/-!
Reading structures out of JSON values. A form lists the fields of a structure in their order, says how
each is read and how the structure is built from them. One form reads both ways of writing a structure: an
object, whose keys are examined in the order in which they stand, and an array of the fields in their
order.
-/

namespace Verdict

/-- Where a form finds its fields, and the error for a field that has to be there and is not. -/
structure FieldSource where
  find : String → Option Json
  absent : String → DecodeError

def Decoder.refusal (decode : Decoder α) (value : Json) : Option DecodeError :=
  match decode value with
  | .ok _ => none
  | .error error => some error

/-- The fields of a structure with a check for each, and the structure that they make up. -/
structure Form (α : Type) where
  checks : List (String × (Json → Option DecodeError))
  build : FieldSource → Except DecodeError α

namespace Form

def names (form : Form α) : List String :=
  form.checks.map (·.1)

def pure (value : α) : Form α :=
  ⟨[], fun _ => .ok value⟩

def seq (function : Form (α → β)) (argument : Form α) : Form β :=
  ⟨function.checks ++ argument.checks, fun source => do
    let apply ← function.build source
    let value ← argument.build source
    .ok (apply value)⟩

instance : Applicative Form where
  pure := Form.pure
  map function form := (Form.pure function).seq form
  seq function argument := function.seq (argument ())

def required (name : String) (decode : Decoder α) : Form α :=
  ⟨[(name, decode.refusal)], fun source =>
    match source.find name with
    | some value => decode value
    | none => .error (source.absent name)⟩

def optional (name : String) (decode : Decoder α) (fallback : α) : Form α :=
  ⟨[(name, decode.refusal)], fun source =>
    match source.find name with
    | some value => decode value
    | none => .ok fallback⟩

/-- A field that may be left out or be null. -/
def nullable (name : String) (decode : Decoder α) : Form (Option α) :=
  optional name (Decoder.nullable decode) none

/-- Examines the fields of an object as they stand. A key that the form does not know is an error of a
closed form only. -/
def examine (form : Form α) (closed : Bool) : Fields → Except DecodeError Unit
  | [] => .ok ()
  | (key, value) :: rest =>
    match form.checks.lookup key with
    | some refusal =>
      match refusal value with
      | some error => .error error
      | none => form.examine closed rest
    | none => if closed then .error (.unknownField key form.names) else form.examine closed rest

/-- Reads the fields of an object. Missing fields are reported only when all keys are right. -/
def ofFields (form : Form α) (closed : Bool) (fields : Fields) : Except DecodeError α := do
  form.examine closed fields
  form.build ⟨fields.get?, .missingField⟩

def lengthText (form : Form α) (title : String) : String :=
  title ++ " with " ++ toString form.names.length ++
    (if form.names.length = 1 then " element" else " elements")

def ofItems (form : Form α) (title : String) (items : List Json) : Except DecodeError α := do
  let value ← form.build
    ⟨fun name => (form.names.zip items).lookup name,
      fun name => .tooFewItems (form.names.idxOf name) (form.lengthText title)⟩
  if form.names.length < items.length then .error (.tooManyItems items.length) else .ok value

/-- Reads a structure; `title` is how messages call it. -/
def decode (form : Form α) (title : String) (closed : Bool) : Decoder α
  | .object fields => form.ofFields closed fields
  | .array items => form.ofItems title items
  | found => .error (.wrongKind found title)

end Form

end Verdict
