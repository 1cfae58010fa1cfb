import Verdict.Proofs.Json.Decoding
/-!
When forms accept. A structure is built from an object exactly if each of its fields is, and an object whose
keys are distinct and known can be read as soon as the structure can be built from it.
-/

namespace Verdict

namespace Fields

theorem get?_of_mem {fields : Fields} (distinct : (fields.map Prod.fst).Nodup) {key : String} {value : Json}
    (mem : (key, value) ∈ fields) : fields.get? key = some value := by
  induction fields with
  | nil => cases mem
  | cons entry rest ih =>
    obtain ⟨name, first⟩ := entry
    obtain ⟨fresh, distinct⟩ := List.nodup_cons.1 distinct
    rw [get?]
    rcases List.mem_cons.1 mem with same | later
    · cases same
      exact if_pos rfl
    · have different : name ≠ key := fun same => fresh (List.mem_map.2 ⟨(key, value), later, same.symm⟩)
      rw [if_neg different, ih distinct later]

end Fields

namespace Form

variable {α β : Type} {source : FieldSource}

theorem build_map (make : α → β) (form : Form α) :
    (make <$> form).build source = (form.build source).map make := by
  change (form.build source >>= fun value => Except.ok (make value)) = _
  cases form.build source <;> rfl

theorem build_map_eq_ok_iff {make : α → β} {form : Form α} {result : β} :
    (make <$> form).build source = .ok result ↔ ∃ value, form.build source = .ok value ∧ make value = result := by
  rw [build_map, Outcome.map_eq_ok_iff]

theorem build_seq_eq_ok_iff {make : Form (α → β)} {form : Form α} {result : β} :
    (make <*> form).build source = .ok result ↔
      ∃ apply, make.build source = .ok apply ∧ ∃ value, form.build source = .ok value ∧ apply value = result := by
  change (make.build source >>= fun apply => form.build source >>= fun value => Except.ok (apply value)) = _ ↔ _
  simp only [Outcome.bind_eq_ok_iff, Except.ok.injEq]

/-! What is built from several fields is opened from the outside, with `P` for what holds of the result. -/

theorem exists_build_map {make : α → β} {form : Form α} {P : β → Prop} :
    (∃ result, (make <$> form).build source = .ok result ∧ P result) ↔
      ∃ value, form.build source = .ok value ∧ P (make value) := by
  simp only [build_map_eq_ok_iff, exists_exists_and_eq_and]

theorem exists_build_seq {make : Form (α → β)} {form : Form α} {P : β → Prop} :
    (∃ result, (make <*> form).build source = .ok result ∧ P result) ↔
      ∃ apply, make.build source = .ok apply ∧ ∃ value, form.build source = .ok value ∧ P (apply value) := by
  simp only [build_seq_eq_ok_iff]
  constructor
  · rintro ⟨_, ⟨apply, first, value, second, rfl⟩, holds⟩
    exact ⟨apply, first, value, second, holds⟩
  · rintro ⟨apply, first, value, second, holds⟩
    exact ⟨_, ⟨apply, first, value, second, rfl⟩, holds⟩

theorem build_eq_ok_iff_exists {form : Form α} {result : α} :
    form.build source = .ok result ↔ ∃ value, form.build source = .ok value ∧ value = result :=
  ⟨fun built => ⟨result, built, rfl⟩, fun ⟨_, built, same⟩ => same ▸ built⟩

@[simp] theorem build_required (name : String) (decode : Decoder α) :
    (required name decode).build source = (source.find name).elim (.error (source.absent name)) decode := by
  dsimp only [required]
  cases source.find name <;> rfl

@[simp] theorem build_optional (name : String) (decode : Decoder α) (fallback : α) :
    (optional name decode fallback).build source = (source.find name).elim (.ok fallback) decode := by
  dsimp only [optional]
  cases source.find name <;> rfl

section

variable {name : String} {decode : Decoder α} {written : Json} {value : α}

theorem build_required_of_find (found : source.find name = some written) (read : decode written = .ok value) :
    (required name decode).build source = .ok value := by
  rw [build_required, found]
  exact read

theorem build_optional_of_find {fallback : α} (found : source.find name = some written)
    (read : decode written = .ok value) : (optional name decode fallback).build source = .ok value := by
  rw [build_optional, found]
  exact read

end

/-- A field that has to be a list is there, and its items are read one by one. -/
theorem build_required_list {name : String} {decode : Decoder α} {values : List α}
    (built : (required name (Decoder.list decode)).build source = .ok values) :
    ∃ items, source.find name = some (.array items) ∧
      List.Forall₂ (fun item value => decode item = .ok value) items values := by
  rw [build_required] at built
  cases present : source.find name with
  | none => simp [present] at built
  | some value =>
    rw [present] at built
    obtain ⟨items, rfl, each⟩ := Decoder.list_eq_ok_iff.1 built
    exact ⟨items, rfl, each⟩

/-- Whatever a form builds its structure from has passed the checks of its fields. -/
def Checked (form : Form α) : Prop :=
  ∀ source value, form.build source = .ok value →
    ∀ check ∈ form.checks, ∀ found, source.find check.1 = some found → check.2 found = none

theorem checked_optional (name : String) (decode : Decoder α) (fallback : α) :
    (optional name decode fallback).Checked := by
  intro source value built check mem found present
  obtain rfl := List.mem_singleton.1 mem
  rw [build_optional, present] at built
  exact Decoder.refusal_eq_none_iff.2 ⟨value, built⟩

theorem checked_nullable (name : String) (decode : Decoder α) : (nullable name decode).Checked :=
  checked_optional name _ none

theorem checked_required (name : String) (decode : Decoder α) : (required name decode).Checked := by
  intro source value built check mem found present
  obtain rfl := List.mem_singleton.1 mem
  rw [build_required, present] at built
  exact Decoder.refusal_eq_none_iff.2 ⟨value, built⟩

theorem Checked.map {form : Form α} (checked : form.Checked) (make : α → β) : (make <$> form).Checked := by
  intro source value built
  obtain ⟨inner, innerBuilt, _⟩ := build_map_eq_ok_iff.1 built
  exact checked source inner innerBuilt

theorem Checked.seq {make : Form (α → β)} {form : Form α} (makeChecked : make.Checked)
    (formChecked : form.Checked) : (make <*> form).Checked := by
  intro source value built check mem
  obtain ⟨apply, applyBuilt, inner, innerBuilt, _⟩ := build_seq_eq_ok_iff.1 built
  rcases List.mem_append.1 mem with first | second
  · exact makeChecked source apply applyBuilt check first
  · exact formChecked source inner innerBuilt check second

variable {form : Form α} {fields : Fields} {value : α} {closed : Bool}

theorem build_of_decode_object {title : String} (read : form.decode title closed (.object fields) = .ok value) :
    form.build ⟨fields.get?, .missingField⟩ = .ok value := by
  rw [decode, ofFields, Outcome.check_bind_eq_ok_iff] at read
  exact read.2

theorem examine_eq_ok (passes : ∀ entry ∈ fields, ∃ check ∈ form.checks, check.1 = entry.1)
    (accepts : ∀ entry ∈ fields, ∀ check ∈ form.checks, check.1 = entry.1 → check.2 entry.2 = none) :
    form.examine closed fields = .ok () := by
  induction fields with
  | nil => rfl
  | cons entry rest ih =>
    obtain ⟨key, found⟩ := entry
    obtain ⟨firstKnown, restKnown⟩ := List.forall_mem_cons.1 passes
    obtain ⟨firstAccepts, restAccepts⟩ := List.forall_mem_cons.1 accepts
    rw [examine]
    cases looked : form.checks.lookup key with
    | none =>
      obtain ⟨check, mem, same⟩ := firstKnown
      exact absurd same.symm (by simpa using List.lookup_eq_none_iff.1 looked check mem)
    | some refusal =>
      obtain ⟨before, after, whole, _⟩ := List.lookup_eq_some_iff.1 looked
      have mem : (key, refusal) ∈ form.checks := by simp [whole]
      have accepted : refusal found = none := firstAccepts (key, refusal) mem rfl
      simp only [accepted, ih restKnown restAccepts]

/-- An object is read if its keys are distinct and known and the structure can be built from its fields. -/
theorem decode_object_of_build {title : String} (checked : form.Checked)
    (distinct : (fields.map Prod.fst).Nodup) (known : ∀ key ∈ fields.map Prod.fst, key ∈ form.names)
    (built : form.build ⟨fields.get?, .missingField⟩ = .ok value) :
    form.decode title closed (.object fields) = .ok value := by
  rw [decode, ofFields, Outcome.check_bind_eq_ok_iff]
  refine ⟨examine_eq_ok (fun entry mem => ?_) (fun entry mem check checkMem same => ?_), built⟩
  · exact List.mem_map.1 (known entry.1 (List.mem_map_of_mem mem))
  · apply checked _ value built check checkMem
    rw [same]
    exact Fields.get?_of_mem distinct mem

end Form

end Verdict
