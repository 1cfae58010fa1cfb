import Verdict.Record.Path
/-!
Writing into a record in place. The walk down a path makes missing parents as it comes to them, and stops at a
parent that is no object; whatever it made until then is in the record that it leaves.
-/

namespace Verdict.Record

/-- The fields of the parent under a key, a missing one being made empty; nothing if another value is there. -/
def parent? (record : Record) (key : String) : Option Record :=
  ((record.get? key).getD (.object [])).fields?

/-- Walks down a list of segments and writes a value at the last one: whether the walk got there, and the record
that it leaves. -/
def assignAt : (record : Record) → (segments : List String) → (value : Json) → Bool × Record
  | record, [], _ => (false, record)
  | record, [last], value => (true, record.insert last value)
  | record, first :: second :: rest, value =>
    match record.parent? first with
    | some inner =>
      let below := assignAt inner (second :: rest) value
      (below.1, record.insert first (.object below.2))
    | none => (false, record)

/-- Writes a value at a path in place; a path with an empty segment is not walked at all. -/
def assign (record : Record) (path : String) (value : Json) : Bool × Record :=
  let segments := Text.segments path
  if segments.any (·.isEmpty) then (false, record) else record.assignAt segments value

end Verdict.Record
