import Verdict.Text.Digits
import Verdict.Text.Segments
import Verdict.Json.Printer
/-!
Records and the paths into them. A path is a text of segments parted by points; a segment is a key of an
object or the index of an item. Reading gives nothing when any step is missing; writing makes missing
parents as objects and refuses to write through any other value.
-/

namespace Verdict

abbrev Record := Fields

def Json.child? : Json → String → Option Json
  | .object fields, key => Fields.get? fields key
  | .array items, index => (Text.readWord index.toList).toOption.bind (fun place => items[place]?)
  | _, _ => none

def Json.descend? : Json → List String → Option Json
  | value, [] => some value
  | value, segment :: rest => (value.child? segment).bind (fun part => part.descend? rest)

namespace Record

def follow? (record : Record) : List String → Option Json
  | [] => none
  | first :: rest => (record.get? first).bind (fun value => value.descend? rest)

/-- The value that a path leads to. A path always has a first segment, if an empty one. -/
def resolve (record : Record) (path : String) : Option Json :=
  record.follow? (Text.segments path)

/-- Writes a value at the end of a list of segments, or gives nothing when a parent is no object. -/
def writeAt : (record : Record) → (segments : List String) → (value : Json) → Option Record
  | _, [], _ => none
  | record, [last], value => some (record.insert last value)
  | record, first :: second :: rest, value =>
    match record.get? first with
    | none =>
      (writeAt ([] : Record) (second :: rest) value).map
        (fun fields => record.insert first (.object fields))
    | some (.object inner) =>
      (writeAt inner (second :: rest) value).map (fun fields => record.insert first (.object fields))
    | some _ => none

def write? (record : Record) (path : String) (value : Json) : Option Record :=
  let segments := Text.segments path
  if segments.any (·.isEmpty) then none else record.writeAt segments value

/-- The name of a record: its `id`, if that is a number or a text that is not empty. -/
def name? (record : Record) : Option String :=
  match record.get? "id" with
  | some (.string text) => if text.isEmpty then none else some text
  | some (.number value) => some value.text
  | _ => none

end Record

/-- What a path leads to: nothing, null, or another value. -/
inductive Presence where
  | absent
  | null
  | present
deriving DecidableEq, Repr

def Presence.of : Option Json → Presence
  | none => .absent
  | some .null => .null
  | some _ => .present

/-- Only a value other than null counts as there. -/
def Presence.exists : Presence → Bool
  | .present => true
  | _ => false

end Verdict
