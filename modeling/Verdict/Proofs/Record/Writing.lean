import Verdict.Proofs.Json.Reading
import Verdict.Record.Assignment
/-!
What writing at a path does. A value can be written exactly where every parent on the way that is there is an
object; it is found again at its path, and paths that part from this one lead where they led before. The walk
that writes in place never stops after it has made a parent, so when it stops the record is as it was.
-/

namespace Verdict.Record

/-- The value that a list of segments leads to through objects alone. -/
def within? : (record : Record) → (segments : List String) → Option Json
  | _, [] => none
  | record, [last] => record.get? last
  | record, first :: second :: rest =>
    match record.get? first with
    | some (.object inner) => within? inner (second :: rest)
    | _ => none

/-- Every parent on the way down a list of segments is an object, as far as it is there. -/
def Open (record : Record) (segments : List String) : Prop :=
  ∀ before, before <+: segments → before ≠ segments → ∀ part, record.within? before = some part →
    ∃ fields, part = .object fields

/-- One path runs through the other: its segments are the first ones of the other. -/
def Above (outer inner : String) : Prop :=
  Text.segments outer <+: Text.segments inner

instance (outer inner : String) : Decidable (Above outer inner) :=
  inferInstanceAs (Decidable (Text.segments outer <+: Text.segments inner))

section Walk

variable {record written inner : Record} {first second : String} {rest segments other : List String}
  {value : Json}

theorem parent?_eq_some (found : record.parent? first = some inner) :
    record.get? first = some (.object inner) ∨ record.get? first = none ∧ inner = [] := by
  rw [parent?] at found
  cases entry : record.get? first with
  | none =>
    rw [entry] at found
    exact .inr ⟨rfl, (Option.some.inj found).symm⟩
  | some part =>
    rw [entry] at found
    cases part with
    | object fields => exact .inl (congrArg _ (congrArg _ (Option.some.inj found)))
    | null | bool | number | string | array => cases found

theorem within?_empty (segments : List String) : within? ([] : Record) segments = none := by
  cases segments with
  | nil => rfl
  | cons first rest => cases rest <;> rfl

theorem within?_cons (record : Record) (first second : String) (rest : List String) :
    record.within? (first :: second :: rest) =
      (record.parent? first).bind (fun inner => within? inner (second :: rest)) := by
  rw [within?, parent?]
  cases record.get? first with
  | none => exact (within?_empty _).symm
  | some part => cases part <;> rfl

theorem writeAt_cons (record : Record) (first second : String) (rest : List String) (value : Json) :
    record.writeAt (first :: second :: rest) value =
      (record.parent? first).bind (fun inner => (writeAt inner (second :: rest) value).map
        (fun fields => record.insert first (.object fields))) := by
  rw [writeAt, parent?]
  cases record.get? first with
  | none => rfl
  | some part => cases part <;> rfl

theorem writeAt_cons_eq_some
    (success : record.writeAt (first :: second :: rest) value = some written) :
    ∃ inner fields, record.parent? first = some inner ∧
      writeAt inner (second :: rest) value = some fields ∧ written = record.insert first (.object fields) := by
  rw [writeAt_cons] at success
  obtain ⟨inner, found, below⟩ := Option.bind_eq_some_iff.1 success
  obtain ⟨fields, wrote, rfl⟩ := Option.map_eq_some_iff.1 below
  exact ⟨inner, fields, found, wrote, rfl⟩

/-- Below an object a list of segments leads where it leads in the object's fields. -/
theorem follow?_cons_of_object (found : record.get? first = some (.object inner)) :
    record.follow? (first :: second :: rest) = follow? inner (second :: rest) := by
  rw [follow?, found]
  rfl

theorem follow?_empty (segments : List String) : follow? ([] : Record) segments = none := by
  cases segments <;> rfl

theorem follow?_congr {left right : Record} (same : left.get? first = right.get? first) :
    left.follow? (first :: rest) = right.follow? (first :: rest) := by
  rw [follow?, follow?, same]

theorem follow?_of_parent? (found : record.parent? first = some inner) :
    record.follow? (first :: second :: rest) = follow? inner (second :: rest) := by
  obtain object | ⟨missing, rfl⟩ := parent?_eq_some found
  · exact follow?_cons_of_object object
  · rw [follow?, missing, follow?_empty]
    rfl

/-- A value that was written is found where it was written. -/
theorem follow?_writeAt (success : record.writeAt segments value = some written) :
    written.follow? segments = some value := by
  induction segments generalizing record written with
  | nil => cases success
  | cons first rest ih =>
    cases rest with
    | nil =>
      cases success
      rw [follow?, Fields.get?_insert_self]
      rfl
    | cons second rest =>
      obtain ⟨inner, fields, _, wrote, rfl⟩ := writeAt_cons_eq_some success
      rw [follow?_cons_of_object (Fields.get?_insert_self ..), ih wrote]

/-- Writing is not seen along segments that part from those of the value: where they part, the value went under
another key. -/
theorem follow?_writeAt_of_apart (success : record.writeAt segments value = some written)
    (notAbove : ¬other <+: segments) (notBelow : ¬segments <+: other) :
    written.follow? other = record.follow? other := by
  induction segments generalizing record written other with
  | nil => cases success
  | cons first rest ih =>
    cases other with
    | nil => exact absurd List.nil_prefix notAbove
    | cons step steps =>
      by_cases same : first = step
      · subst same
        rw [List.cons_prefix_cons, not_and] at notAbove notBelow
        cases rest with
        | nil => exact absurd List.nil_prefix (notBelow rfl)
        | cons second rest =>
          cases steps with
          | nil => exact absurd List.nil_prefix (notAbove rfl)
          | cons next steps =>
            obtain ⟨inner, fields, found, wrote, rfl⟩ := writeAt_cons_eq_some success
            rw [follow?_cons_of_object (Fields.get?_insert_self ..), follow?_of_parent? found]
            exact ih wrote (notAbove rfl) (notBelow rfl)
      · obtain ⟨part, rfl⟩ : ∃ part, written = record.insert first part := by
          cases rest with
          | nil => exact ⟨value, (Option.some.inj success).symm⟩
          | cons second rest =>
            obtain ⟨_, fields, _, _, rfl⟩ := writeAt_cons_eq_some success
            exact ⟨.object fields, rfl⟩
        exact follow?_congr (Fields.get?_insert_of_ne record part same)

end Walk

section Ways

variable {record : Record}

theorem open_empty (segments : List String) : Open ([] : Record) segments := by
  intro before _ _ part found
  rw [within?_empty] at found
  cases found

theorem open_singleton (record : Record) (last : String) : record.Open [last] := by
  intro before above proper part found
  cases before with
  | nil => cases found
  | cons step steps =>
    obtain ⟨rfl, tail⟩ := List.cons_prefix_cons.1 above
    rw [List.prefix_nil.1 tail] at proper
    exact absurd rfl proper

/-- A way of several segments is open if the parent under the first one is, and the way goes on from there. -/
theorem open_cons_iff (record : Record) (first second : String) (rest : List String) :
    record.Open (first :: second :: rest) ↔
      ∃ inner, record.parent? first = some inner ∧ Open inner (second :: rest) := by
  constructor
  · intro way
    have parent : ∃ inner, record.parent? first = some inner := by
      rw [parent?]
      cases entry : record.get? first with
      | none => exact ⟨[], rfl⟩
      | some part =>
        obtain ⟨fields, rfl⟩ := way [first] (List.cons_prefix_cons.2 ⟨rfl, List.nil_prefix⟩) (by simp) part entry
        exact ⟨fields, rfl⟩
    obtain ⟨inner, found⟩ := parent
    refine ⟨inner, found, fun before above proper part reached => ?_⟩
    cases before with
    | nil => cases reached
    | cons step steps =>
      refine way (first :: step :: steps) (List.cons_prefix_cons.2 ⟨rfl, above⟩) ?_ part ?_
      · exact fun whole => proper (List.cons.inj whole).2
      · rw [within?_cons, found]
        exact reached
  · rintro ⟨inner, found, way⟩ before above proper part reached
    cases before with
    | nil => cases reached
    | cons step steps =>
      obtain ⟨rfl, tail⟩ := List.cons_prefix_cons.1 above
      cases steps with
      | nil =>
        obtain object | ⟨missing, rfl⟩ := parent?_eq_some found
        · exact ⟨inner, Option.some.inj (reached.symm.trans object)⟩
        · cases missing.symm.trans reached
      | cons next steps =>
        rw [within?_cons, found] at reached
        exact way (next :: steps) tail (fun whole => proper (congrArg _ whole)) part reached

end Ways

/-- The walk in place gets to the end of a way exactly if the way is open. -/
theorem assignAt_done_iff (record : Record) {segments : List String} (some : segments ≠ []) (value : Json) :
    (record.assignAt segments value).1 = true ↔ record.Open segments := by
  induction segments generalizing record with
  | nil => exact absurd rfl some
  | cons first rest ih =>
    cases rest with
    | nil => exact ⟨fun _ => open_singleton record first, fun _ => rfl⟩
    | cons second rest =>
      rw [open_cons_iff, assignAt]
      cases found : record.parent? first with
      | none => exact ⟨nofun, nofun⟩
      | some inner => simpa using ih inner (List.cons_ne_nil second rest)

/-- What the walk in place leaves at its end is what is written. -/
theorem writeAt_eq_assignAt (record : Record) (segments : List String) (value : Json) :
    record.writeAt segments value =
      if (record.assignAt segments value).1 then some (record.assignAt segments value).2 else none := by
  induction segments generalizing record with
  | nil => rfl
  | cons first rest ih =>
    cases rest with
    | nil => rfl
    | cons second rest =>
      rw [writeAt_cons, assignAt]
      cases found : record.parent? first with
      | none => rfl
      | some inner =>
        rw [Option.bind_some, ih]
        cases (assignAt inner (second :: rest) value).1 <;> simp

/-- A parent that was not there is made empty, and from an empty parent the walk gets to the end. So a walk that
stops has made nothing, and puts every parent that it came through back as it was. -/
theorem assignAt_of_not_done {record : Record} (ordered : Fields.Ordered record) {segments : List String}
    {value : Json} (stopped : (record.assignAt segments value).1 = false) :
    (record.assignAt segments value).2 = record := by
  induction segments generalizing record with
  | nil => rfl
  | cons first rest ih =>
    cases rest with
    | nil => cases stopped
    | cons second rest =>
      rw [assignAt] at stopped ⊢
      cases found : record.parent? first with
      | none => rfl
      | some inner =>
        rw [found] at stopped
        obtain object | ⟨_, rfl⟩ := parent?_eq_some found
        · dsimp only at stopped ⊢
          rw [ih (ordered.get? object) stopped]
          exact ordered.ascending.insert_of_get? object
        · have done := (assignAt_done_iff [] (List.cons_ne_nil second rest) value).2 (open_empty _)
          cases done.symm.trans stopped

theorem ordered_assignAt {record : Record} (ordered : Fields.Ordered record) (segments : List String)
    {value : Json} (inner : value.Ordered) : Fields.Ordered (record.assignAt segments value).2 := by
  induction segments generalizing record with
  | nil => exact ordered
  | cons first rest ih =>
    cases rest with
    | nil => exact ordered.insert first inner
    | cons second rest =>
      rw [assignAt]
      cases found : record.parent? first with
      | none => exact ordered
      | some parent =>
        have parentOrdered : Fields.Ordered parent := by
          obtain object | ⟨_, rfl⟩ := parent?_eq_some found
          · exact ordered.get? object
          · exact .nil
        exact ordered.insert first (ih parentOrdered)

section Path

variable (record : Record) (path : String) (value : Json)

/-- A path that a value can be written at: it has no empty segment, and its way is open. -/
def Writable : Prop :=
  (∀ segment ∈ Text.segments path, segment ≠ "") ∧ record.Open (Text.segments path)

theorem segments_ne_nil : Text.segments path ≠ [] :=
  fun none => Text.splitAtMark_ne_nil '.' path.toList (List.map_eq_nil_iff.1 none)

theorem any_isEmpty_eq_false_iff (segments : List String) :
    segments.any (·.isEmpty) = false ↔ ∀ segment ∈ segments, segment ≠ "" := by
  simp [List.any_eq_false, String.isEmpty_iff]

theorem assign_done_iff : (record.assign path value).1 = true ↔ record.Writable path := by
  rw [Writable, ← any_isEmpty_eq_false_iff, assign]
  cases gap : (Text.segments path).any (·.isEmpty) with
  | true => simp
  | false => simpa using assignAt_done_iff record (segments_ne_nil path) value

theorem write?_eq_assign :
    record.write? path value =
      if (record.assign path value).1 then some (record.assign path value).2 else none := by
  rw [write?, assign]
  cases (Text.segments path).any (·.isEmpty) with
  | true => rfl
  | false => exact writeAt_eq_assignAt record (Text.segments path) value

variable {record path value}

theorem assign_of_not_done (ordered : Fields.Ordered record) (stopped : (record.assign path value).1 = false) :
    (record.assign path value).2 = record := by
  rw [assign] at stopped ⊢
  cases gap : (Text.segments path).any (·.isEmpty) with
  | true => rfl
  | false =>
    rw [gap] at stopped
    exact assignAt_of_not_done ordered stopped

theorem ordered_assign (ordered : Fields.Ordered record) (inner : value.Ordered) :
    Fields.Ordered (record.assign path value).2 := by
  rw [assign]
  cases (Text.segments path).any (·.isEmpty) with
  | true => exact ordered
  | false => exact ordered_assignAt ordered (Text.segments path) inner

theorem writeAt_of_write? {written : Record} (success : record.write? path value = some written) :
    record.writeAt (Text.segments path) value = some written := by
  rw [write?] at success
  split at success
  · cases success
  · exact success

theorem resolve_write? {written : Record} (success : record.write? path value = some written) :
    written.resolve path = some value :=
  follow?_writeAt (writeAt_of_write? success)

theorem resolve_write?_of_apart {written : Record} (success : record.write? path value = some written)
    {other : String} (notAbove : ¬Above other path) (notBelow : ¬Above path other) :
    written.resolve other = record.resolve other :=
  follow?_writeAt_of_apart (writeAt_of_write? success) notAbove notBelow

end Path

/-- Writing in place reaches the end of a path exactly if the path is writable, and then it comes to what writing
gives: the value is at its path, and every path that parts from it leads where it did. Otherwise the record stays
as it was. -/
theorem assignment_reaches_or_leaves (record : Record) (path : String) (value : Json) :
    ((record.assign path value).1 = true ↔ record.Writable path) ∧
    ((record.assign path value).1 = true →
      Record.resolve (record.assign path value).2 path = some value ∧
        ∀ other, ¬Above other path → ¬Above path other →
          Record.resolve (record.assign path value).2 other = record.resolve other) ∧
    (Fields.Ordered record → (record.assign path value).1 = false →
      (record.assign path value).2 = record) ∧
    record.write? path value =
      if (record.assign path value).1 then some (record.assign path value).2 else none := by
  refine ⟨assign_done_iff record path value, fun done => ?_, fun ordered => assign_of_not_done ordered,
    write?_eq_assign record path value⟩
  have success : record.write? path value = some (record.assign path value).2 := by
    rw [write?_eq_assign, if_pos done]
  exact ⟨resolve_write? success, fun other => resolve_write?_of_apart success⟩

/-- A vendor without an address, who has two ratings. -/
def ratedVendor : Record :=
  [("id", .string "PR-7"), ("vendor", .object [("ratings", .array [.bool true, .null])])]

/-- The vendor is ordered since the text of the record can be read. -/
theorem ordered_ratedVendor : Fields.Ordered ratedVendor := by
  have sent : Json.read "\x7b\"vendor\":\x7b\"ratings\":[true,null]\x7d,\"id\":\"PR-7\"\x7d" =
      .ok (.object ratedVendor) := by
    with_unfolding_all rfl
  exact Json.ordered_read sent

/-- An address is made where none is, and ratings are no parents. -/
theorem address_assigned_rating_refused :
    (Record.resolve (ratedVendor.assign "vendor.address.city" (.string "Bonn")).2 "vendor.address.city" =
        some (.string "Bonn") ∧
      Record.resolve (ratedVendor.assign "vendor.address.city" (.string "Bonn")).2 "vendor.ratings.0" =
        some (.bool true)) ∧
    (ratedVendor.assign "vendor.ratings.0.note" .null).2 = ratedVendor := by
  constructor
  · obtain ⟨-, reached, -⟩ :=
      assignment_reaches_or_leaves ratedVendor "vendor.address.city" (.string "Bonn")
    obtain ⟨found, others⟩ := reached (by decide +kernel)
    refine ⟨found, (others "vendor.ratings.0" ?_ ?_).trans ?_⟩
    · decide +kernel
    · decide +kernel
    · rfl
  · obtain ⟨-, -, left, -⟩ := assignment_reaches_or_leaves ratedVendor "vendor.ratings.0.note" .null
    exact left ordered_ratedVendor (by decide +kernel)

end Verdict.Record
