import Verdict.Json.Comparison
import Verdict.Proofs.Json.Form
import Verdict.Proofs.Json.Number
import Verdict.Proofs.Json.Order
/-!
When values agree: if they are built alike, with numbers in the same places that are compared by one value. For
objects, whose keys are distinct, it is enough to compare how many keys there are and to look up those of one side.
-/

namespace Verdict

namespace Fields

variable {left right : Fields}

theorem Ascending.nodup (ascending : left.Ascending) : (left.map Prod.fst).Nodup := by
  refine List.pairwise_map.2 (ascending.imp (fun {entry later} before same => ?_))
  rw [same] at before
  exact String.lt_irrefl _ before

theorem get?_eq_some_iff (ascending : left.Ascending) {key : String} {value : Json} :
    left.get? key = some value ↔ (key, value) ∈ left :=
  ⟨mem_of_get?, get?_of_mem ascending.nodup⟩

theorem get?_isSome_iff (fields : Fields) (key : String) :
    (fields.get? key).isSome = true ↔ key ∈ fields.map Prod.fst := by
  induction fields with
  | nil => simp [get?]
  | cons entry rest ih =>
    obtain ⟨first, value⟩ := entry
    rw [get?, List.map_cons, List.mem_cons]
    by_cases same : first = key
    · simp [same]
    · rw [if_neg same, ih, or_iff_right (Ne.symm same)]

/-- As many keys on both sides, and none that is on the left only: then none is on the right only. -/
theorem same_keys_iff (ascending : left.Ascending) (ascending' : right.Ascending) :
    (∀ key, (left.get? key).isSome = true ↔ (right.get? key).isSome = true) ↔
      left.length = right.length ∧ ∀ entry ∈ left, (right.get? entry.1).isSome = true := by
  simp only [get?_isSome_iff]
  constructor
  · intro same
    have permuted := (List.perm_ext_iff_of_nodup ascending.nodup ascending'.nodup).2 same
    exact ⟨by simpa using permuted.length_eq, fun entry mem => (same entry.1).1 (List.mem_map_of_mem mem)⟩
  · rintro ⟨lengths, found⟩ key
    have subset : left.map Prod.fst ⊆ right.map Prod.fst := fun key mem => by
      obtain ⟨entry, present, rfl⟩ := List.mem_map.1 mem
      exact found entry present
    have permuted := (List.subperm_of_subset ascending.nodup subset).perm_of_length_le (by simp [lengths])
    exact permuted.mem_iff

end Fields

namespace Json

/-- Values built alike, whose numbers are related place by place. The keys of an object have no order. -/
inductive Alike (related : Number → Number → Prop) : Json → Json → Prop
  | null : Alike related .null .null
  | bool (value : Bool) : Alike related (.bool value) (.bool value)
  | number {left right : Number} (same : related left right) : Alike related (.number left) (.number right)
  | string (value : String) : Alike related (.string value) (.string value)
  | array {left right : List Json} (each : List.Forall₂ (Alike related) left right) :
    Alike related (.array left) (.array right)
  | object {left right : Fields} (each : ∀ key, Option.Rel (Alike related) (left.get? key) (right.get? key)) :
    Alike related (.object left) (.object right)

/-- Values that are alike stay so under a relation that holds of more numbers. -/
theorem Alike.mono {related related' : Number → Number → Prop}
    (weaker : ∀ {left right}, related left right → related' left right) {left right : Json}
    (alike : Alike related left right) : Alike related' left right := by
  -- The recursion goes through the items of arrays and the values under the keys of objects.
  refine @Alike.rec related (fun left right _ => Alike related' left right)
    (fun left right _ => List.Forall₂ (Alike related') left right)
    (fun left right _ => Option.Rel (Alike related') left right)
    .null .bool ?number .string ?array ?object .nil ?cons ?some .none left right alike
  case number => exact fun same => .number (weaker same)
  case array => exact fun _ each => .array each
  case object => exact fun _ each => .object each
  case cons => exact fun _ _ first rest => .cons first rest
  case some => exact fun _ inner => .some inner

section Object

variable {left right : Fields} {related : Number → Number → Prop}

/-- Objects are alike if they have as many keys and those of the left lead to values that are alike. -/
theorem alike_object_iff (ascending : left.Ascending) (ascending' : right.Ascending) :
    Alike related (.object left) (.object right) ↔
      left.length = right.length ∧
        ∀ entry ∈ left, ∃ value, right.get? entry.1 = some value ∧ entry.2.Alike related value := by
  constructor
  · rintro (_ | _ | _ | _ | _ | ⟨each⟩)
    have present {found found' : Option Json} (same : Option.Rel (Alike related) found found') :
        found.isSome = true ↔ found'.isSome = true := by
      cases same <;> rfl
    have keys := fun key => present (each key)
    refine ⟨((Fields.same_keys_iff ascending ascending').1 keys).1, fun entry mem => ?_⟩
    have same := each entry.1
    rw [(Fields.get?_eq_some_iff ascending).2 mem] at same
    cases found : right.get? entry.1 with
    | none => rw [found] at same; cases same
    | some value => rw [found] at same; cases same with | some alike => exact ⟨value, rfl, alike⟩
  · rintro ⟨lengths, found⟩
    have keys := (Fields.same_keys_iff ascending ascending').2 ⟨lengths, fun entry mem => by
      obtain ⟨value, found, -⟩ := found entry mem
      rw [found]
      rfl⟩
    refine .object (fun key => ?_)
    cases there : left.get? key with
    | none =>
      have absent : right.get? key = none := by
        have := keys key
        rw [there] at this
        simpa using this
      rw [absent]
      exact .none
    | some value =>
      obtain ⟨value', found, alike⟩ := found (key, value) (Fields.mem_of_get? there)
      rw [found]
      exact .some alike

end Object

mutual

theorem agrees_iff : ∀ left right : Json, left.Ordered → right.Ordered →
    (left.agrees right = true ↔ left.Alike Number.Level right)
  | .null, right, _, _ => by
    cases right with
    | null => exact ⟨fun _ => .null, fun _ => rfl⟩
    | bool | number | string | array | object => exact ⟨nofun, nofun⟩
  | .bool left, right, _, _ => by
    cases right with
    | bool right =>
      rw [agrees, beq_iff_eq]
      exact ⟨fun same => same ▸ .bool left, fun alike => by cases alike; rfl⟩
    | null | number | string | array | object => exact ⟨nofun, nofun⟩
  | .number left, right, _, _ => by
    cases right with
    | number right =>
      rw [agrees, Number.toFloat_beq_iff]
      exact ⟨fun same => .number same, fun alike => by cases alike with | number same => exact same⟩
    | null | bool | string | array | object => exact ⟨nofun, nofun⟩
  | .string left, right, _, _ => by
    cases right with
    | string right =>
      rw [agrees, beq_iff_eq]
      exact ⟨fun same => same ▸ .string left, fun alike => by cases alike; rfl⟩
    | null | bool | number | array | object => exact ⟨nofun, nofun⟩
  | .array left, right, .array each, ordered => by
    cases ordered with
    | array each' =>
      rw [agrees, itemsAgree_iff left _ each each']
      exact ⟨.array, fun alike => by cases alike with | array each => exact each⟩
    | null | bool | number | string | object => exact ⟨nofun, nofun⟩
  | .object left, right, .object ascending each, ordered => by
    cases ordered with
    | object ascending' each' =>
      rw [agrees, Bool.and_eq_true, beq_iff_eq, fieldsAgree_iff left _ each each',
        alike_object_iff ascending ascending']
    | null | bool | number | string | array => exact ⟨nofun, nofun⟩

theorem itemsAgree_iff : ∀ left right : List Json, (∀ item ∈ left, item.Ordered) →
    (∀ item ∈ right, item.Ordered) → (itemsAgree left right = true ↔ List.Forall₂ (Alike Number.Level) left right)
  | [], [], _, _ => ⟨fun _ => .nil, fun _ => rfl⟩
  | [], _ :: _, _, _ => ⟨nofun, nofun⟩
  | _ :: _, [], _, _ => ⟨nofun, nofun⟩
  | first :: left, second :: right, each, each' => by
    rw [itemsAgree, Bool.and_eq_true, List.forall₂_cons, agrees_iff first second (each first List.mem_cons_self)
      (each' second List.mem_cons_self), itemsAgree_iff left right
      (fun item mem => each item (List.mem_cons_of_mem _ mem))
      (fun item mem => each' item (List.mem_cons_of_mem _ mem))]

theorem fieldsAgree_iff : ∀ left right : Fields, (∀ entry ∈ left, entry.2.Ordered) →
    (∀ entry ∈ right, entry.2.Ordered) →
    (fieldsAgree left right = true ↔
      ∀ entry ∈ left, ∃ value, right.get? entry.1 = some value ∧ entry.2.Alike Number.Level value)
  | [], right, _, _ => ⟨fun _ => nofun, fun _ => rfl⟩
  | (key, value) :: left, right, each, each' => by
    rw [fieldsAgree, Bool.and_eq_true, List.forall_mem_cons,
      fieldsAgree_iff left right (fun entry mem => each entry (List.mem_cons_of_mem _ mem)) each']
    refine and_congr_left (fun _ => ?_)
    cases found : right.get? key with
    | none => exact ⟨nofun, nofun⟩
    | some value' =>
      have ordered : value.Ordered := each (key, value) List.mem_cons_self
      have ordered' : value'.Ordered := each' (key, value') (Fields.mem_of_get? found)
      dsimp only
      rw [agrees_iff value value' ordered ordered']
      simp only [Option.some.injEq, exists_eq_left']

end

end Json

end Verdict
