import Verdict.Json.Basic
/-!
Values whose objects list their keys in ascending order, at every depth. In such an object a key has one place,
so putting the value there that it has already changes nothing.
-/

namespace Verdict

/-- Every object in a value lists its keys in ascending order. -/
inductive Json.Ordered : Json → Prop
  | null : Ordered .null
  | bool (value : Bool) : Ordered (.bool value)
  | number (value : Number) : Ordered (.number value)
  | string (value : String) : Ordered (.string value)
  | array {items : List Json} (each : ∀ item ∈ items, Ordered item) : Ordered (.array items)
  | object {fields : Fields} (ascending : fields.Ascending) (each : ∀ entry ∈ fields, Ordered entry.2) :
    Ordered (.object fields)

namespace Fields

/-- The fields of an object that lists its keys in ascending order, as do all objects below it. -/
def Ordered (fields : Fields) : Prop :=
  (Json.object fields).Ordered

theorem mem_of_get? {fields : Fields} {key : String} {value : Json} (found : fields.get? key = some value) :
    (key, value) ∈ fields := by
  induction fields with
  | nil => cases found
  | cons entry rest ih =>
    obtain ⟨first, old⟩ := entry
    rw [get?] at found
    split at found
    · next same =>
      obtain rfl := Option.some.inj found
      rw [same]
      exact List.mem_cons_self
    · exact List.mem_cons_of_mem _ (ih found)

/-- Putting a value where it is already changes nothing. -/
theorem Ascending.insert_of_get? {fields : Fields} (ascending : fields.Ascending) {key : String} {value : Json}
    (found : fields.get? key = some value) : Fields.insert fields key value = fields := by
  induction fields with
  | nil => cases found
  | cons entry rest ih =>
    obtain ⟨first, old⟩ := entry
    obtain ⟨before, restAscending⟩ := List.pairwise_cons.1 ascending
    rw [get?] at found
    rw [Fields.insert]
    by_cases same : first = key
    · rw [if_pos same] at found ⊢
      rw [Option.some.inj found, same]
    · rw [if_neg same] at found ⊢
      have later : first < key := before (key, value) (mem_of_get? found)
      rw [if_neg (String.lt_asymm later), ih restAscending found]

namespace Ordered

variable {fields : Fields}

theorem nil : Ordered ([] : Fields) :=
  .object List.Pairwise.nil nofun

theorem ascending (ordered : fields.Ordered) : fields.Ascending := by
  cases ordered with
  | object ascending _ => exact ascending

theorem value (ordered : fields.Ordered) {entry : String × Json} (mem : entry ∈ fields) :
    entry.2.Ordered := by
  cases ordered with
  | object _ each => exact each entry mem

theorem get? (ordered : fields.Ordered) {key : String} {value : Json} (found : fields.get? key = some value) :
    value.Ordered :=
  ordered.value (mem_of_get? found)

theorem insert (ordered : fields.Ordered) (key : String) {value : Json} (inner : value.Ordered) :
    (Fields.insert fields key value).Ordered := by
  refine .object (ordered.ascending.insert key value) (fun entry mem => ?_)
  obtain rfl | old := key_mem_insert mem
  · exact inner
  · exact ordered.value old

end Ordered

end Fields

end Verdict
