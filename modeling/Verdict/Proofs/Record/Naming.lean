import Verdict.Evaluation.Batch
/-!
What records are called. A number or a text that is not empty under `id` is a name; a record without one is called by
its place among others, and is not called at all where there is no place.
-/

namespace Verdict.Record

/-- The name of a record itself, if it has one. -/
inductive Called (record : Record) : Option String → Prop where
  | text {name : String} (found : record.get? "id" = some (.string name)) (given : name ≠ "") :
    Called record (some name)
  | number {value : Number} (found : record.get? "id" = some (.number value)) : Called record (some value.text)
  | unnamed (noText : ∀ name, record.get? "id" = some (.string name) → name = "")
    (noNumber : ∀ value, record.get? "id" ≠ some (.number value)) : Called record none

/-- How a record is called at a place of a batch: by its own name, which is a number or a text that is not empty,
and otherwise by its place. -/
inductive CalledAt (record : Record) (place : Nat) : String → Prop where
  | text {name : String} (found : record.get? "id" = some (.string name)) (given : name ≠ "") :
      CalledAt record place name
  | number {value : Number} (found : record.get? "id" = some (.number value)) :
      CalledAt record place value.text
  | unnamed (noText : ∀ name, record.get? "id" = some (.string name) → name = "")
      (noNumber : ∀ value, record.get? "id" ≠ some (.number value)) :
      CalledAt record place ("record_" ++ toString place)

variable (record : Record)

theorem called_name? : record.Called record.name? := by
  rw [name?]
  split
  next name found =>
    by_cases empty : name = ""
    · rw [if_pos (String.isEmpty_iff.2 empty)]
      refine .unnamed (fun other same => ?_) (fun value same => ?_)
      · cases found.symm.trans same
        exact empty
      · cases found.symm.trans same
    · rw [if_neg (mt String.isEmpty_iff.1 empty)]
      exact .text found empty
  next value found => exact .number found
  next noText noNumber =>
    exact .unnamed (fun name found => absurd found (noText name)) noNumber

theorem calledAt_nameAt (place : Nat) : record.CalledAt place (record.nameAt place) := by
  have called := record.called_name?
  rw [nameAt]
  generalize record.name? = name at called ⊢
  cases called with
  | text found given => exact .text found given
  | number found => exact .number found
  | unnamed noText noNumber => exact .unnamed noText noNumber

end Verdict.Record
