import Verdict.Proofs.Json.Agreement
/-!
Objects in which the value of a key is changed or filled in. What stands under the other keys stays, the keys stay
in order, and a form that reads the old value as it reads the new one fails for the same reasons.
-/

namespace Verdict

namespace Fields

variable {fields : Fields} {key wanted : String} {change : Json → Json} {value : Json}

/-- Changes the value of a key that is there. -/
def modify (fields : Fields) (key : String) (change : Json → Json) : Fields :=
  fields.map (fun entry => if entry.1 = key then (entry.1, change entry.2) else entry)

/-- Puts a value under a key that is not there. -/
def withDefault (fields : Fields) (key : String) (value : Json) : Fields :=
  if fields.hasKey key then fields else fields.insert key value

theorem modify_cons (first : String) (old : Json) (rest : Fields) :
    modify ((first, old) :: rest) key change =
      (if first = key then (first, change old) else (first, old)) :: modify rest key change := rfl

theorem get?_modify : (fields.modify key change).get? wanted =
    if wanted = key then (fields.get? wanted).map change else fields.get? wanted := by
  induction fields with
  | nil => simp [modify, get?]
  | cons entry rest ih =>
    obtain ⟨first, old⟩ := entry
    rw [modify_cons]
    by_cases changed : first = key
    · subst changed
      rw [if_pos rfl, get?, get?, ih]
      by_cases here : first = wanted
      · simp [here]
      · simp [here, Ne.symm here]
    · rw [if_neg changed, get?, get?, ih]
      by_cases here : first = wanted
      · subst here
        simp [changed]
      · simp [here]

theorem get?_withDefault : (fields.withDefault key value).get? wanted =
    if wanted = key then some ((fields.get? wanted).getD value) else fields.get? wanted := by
  unfold withDefault hasKey
  split
  next present =>
    split
    next here =>
      obtain ⟨old, found⟩ := Option.isSome_iff_exists.1 present
      rw [here, found, Option.getD_some]
    next => rfl
  next absent =>
    split
    next here => rw [here, get?_insert_self, Option.not_isSome_iff_eq_none.1 absent, Option.getD_none]
    next elsewhere => exact get?_insert_of_ne fields value (Ne.symm elsewhere)

theorem Ascending.modify (ascending : fields.Ascending) (key : String) (change : Json → Json) :
    (fields.modify key change).Ascending := by
  have kept (entry : String × Json) : (if entry.1 = key then (entry.1, change entry.2) else entry).1 = entry.1 := by
    split <;> rfl
  refine List.pairwise_map.2 (ascending.imp (fun before => ?_))
  rwa [kept, kept]

theorem Ascending.withDefault (ascending : fields.Ascending) (key : String) (value : Json) :
    (fields.withDefault key value).Ascending := by
  unfold Fields.withDefault
  split
  · exact ascending
  · exact ascending.insert key value

/-- Keys in order leave one way to list what stands under them. -/
theorem Ascending.ext {left right : Fields} (ascending : left.Ascending) (ascending' : right.Ascending)
    (same : ∀ key, left.get? key = right.get? key) : left = right := by
  have members (entry : String × Json) : entry ∈ left ↔ entry ∈ right := by
    rw [← get?_eq_some_iff ascending, ← get?_eq_some_iff ascending', same]
  have permuted : left.Perm right :=
    (List.perm_ext_iff_of_nodup ascending.nodup.of_map ascending'.nodup.of_map).2 members
  exact permuted.eq_of_pairwise (fun _ _ _ _ before after => absurd before (String.lt_asymm after)) ascending
    ascending'

end Fields

/-- Two sources find the same, and miss it in the same way, under all names but one. -/
structure FieldSource.AgreesBut (left right : FieldSource) (changed : String) : Prop where
  find : ∀ name, name ≠ changed → left.find name = right.find name
  absent : left.absent = right.absent

theorem Fields.agreesBut_modify (fields : Fields) (key : String) (change : Json → Json) :
    FieldSource.AgreesBut ⟨fields.get?, .missingField⟩ ⟨(fields.modify key change).get?, .missingField⟩ key where
  find _ other := (Fields.get?_modify.trans (if_neg other)).symm
  absent := rfl

namespace Form

open Outcome (FailAlike)

variable {α β : Type} {left right : FieldSource}

/-- A form fails on two sources for the same reasons. -/
def FailsAlike (form : Form α) (left right : FieldSource) : Prop :=
  FailAlike (form.build left) (form.build right)

theorem FailsAlike.seq {make : Form (α → β)} {form : Form α} (makeAlike : make.FailsAlike left right)
    (formAlike : form.FailsAlike left right) : (make <*> form).FailsAlike left right :=
  FailAlike.bind makeAlike (fun apply other =>
    FailAlike.bind formAlike (fun value further => .ok (apply value) (other further)))

theorem FailsAlike.map {form : Form α} (alike : form.FailsAlike left right) (make : α → β) :
    (make <$> form).FailsAlike left right :=
  .seq (.ok make make : (Form.pure make).FailsAlike left right) alike

section

variable {name changed : String} {decode : Decoder α}

theorem FailsAlike.required (agree : left.AgreesBut right changed) (other : name ≠ changed) :
    (required name decode).FailsAlike left right := by
  rw [FailsAlike, build_required, build_required, agree.find name other, agree.absent]
  exact .refl _

theorem FailsAlike.optional {fallback : α} (agree : left.AgreesBut right changed) (other : name ≠ changed) :
    (optional name decode fallback).FailsAlike left right := by
  rw [FailsAlike, build_optional, build_optional, agree.find name other]
  exact .refl _

end

variable {form : Form α} {closed : Bool} {fields : Fields} {key : String} {new : Json}

/-- The examination does not notice that an accepted value takes the place of another. -/
theorem examine_modify
    (accepted : ∀ refusal, form.checks.lookup key = some refusal →
      refusal new = none ∧ ∀ entry ∈ fields, entry.1 = key → refusal entry.2 = none) :
    form.examine closed (fields.modify key (fun _ => new)) = form.examine closed fields := by
  induction fields with
  | nil => rfl
  | cons entry rest ih =>
    obtain ⟨first, value⟩ := entry
    have ih := ih (fun refusal looked =>
      ⟨(accepted refusal looked).1, fun entry mem => (accepted refusal looked).2 entry (List.mem_cons_of_mem _ mem)⟩)
    rw [Fields.modify_cons]
    by_cases changed : first = key
    · subst changed
      rw [if_pos rfl, examine, examine, ih]
      cases looked : form.checks.lookup first with
      | none => rfl
      | some refusal =>
        obtain ⟨newAccepted, oldAccepted⟩ := accepted refusal looked
        simp only [newAccepted, oldAccepted _ List.mem_cons_self rfl]
    · rw [if_neg changed, examine, examine, ih]

theorem decode_modify_failAlike {title : String}
    (accepted : ∀ refusal, form.checks.lookup key = some refusal →
      refusal new = none ∧ ∀ entry ∈ fields, entry.1 = key → refusal entry.2 = none)
    (alike : form.FailsAlike ⟨fields.get?, .missingField⟩
      ⟨(fields.modify key (fun _ => new)).get?, .missingField⟩) :
    FailAlike (form.decode title closed (.object fields))
      (form.decode title closed (.object (fields.modify key (fun _ => new)))) := by
  rw [decode, decode, ofFields, ofFields, examine_modify accepted]
  exact FailAlike.bind (.refl _) (fun _ _ => alike)

end Form

end Verdict
