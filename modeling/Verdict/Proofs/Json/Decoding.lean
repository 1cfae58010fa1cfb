import Mathlib.Data.List.Forall2
import Verdict.Json.Form
import Verdict.Proofs.Outcome
/-!
When decoders accept. A list is read exactly if each of its items is, and what is written item by item is
read back item by item.
-/

namespace Verdict

namespace Decoder

variable {α : Type} {decode : Decoder α}

theorem refusal_eq_none_iff {value : Json} :
    decode.refusal value = none ↔ ∃ result, decode value = .ok result := by
  rw [refusal]
  cases decode value <;> simp

theorem all_eq_ok_iff {items : List Json} {values : List α} :
    all decode items = .ok values ↔ List.Forall₂ (fun item value => decode item = .ok value) items values := by
  induction items generalizing values with
  | nil => simp [all, eq_comm]
  | cons item rest ih =>
    rw [all, Outcome.bind_eq_ok_iff, List.forall₂_cons_left_iff]
    constructor
    · intro steps
      obtain ⟨value, first, success⟩ := steps
      obtain ⟨others, later, same⟩ := Outcome.bind_eq_ok_iff.1 success
      exact ⟨value, others, first, ih.1 later, (Except.ok.inj same).symm⟩
    · intro steps
      obtain ⟨value, others, first, later, rfl⟩ := steps
      exact ⟨value, first, Outcome.bind_eq_ok_iff.2 ⟨others, ih.2 later, rfl⟩⟩

theorem list_eq_ok_iff {value : Json} {values : List α} :
    list decode value = .ok values ↔
      ∃ items, value = .array items ∧ List.Forall₂ (fun item value => decode item = .ok value) items values := by
  cases value <;> simp [list, all_eq_ok_iff]

/-- A list is read back if each of its items is. -/
theorem list_map_eq_ok {encode : α → Json} {values : List α}
    (readBack : ∀ value ∈ values, decode (encode value) = .ok value) :
    list decode (.array (values.map encode)) = .ok values := by
  refine list_eq_ok_iff.2 ⟨_, rfl, List.forall₂_map_left_iff.2 (List.forall₂_same.2 readBack)⟩

theorem variant_string {names : List (String × α)} {name : String} {value : α}
    (listed : names.lookup name = some value) (fallback : Option α) :
    variant names fallback (.string name) = .ok value := by
  simp only [variant, named, listed]

/-- Every number of 32 bits fits a JSON integer and is read back. -/
theorem int32_ofInt (value : Int32) : int32 (.ofInt value.toInt) = .ok value := by
  have low := value.le_toInt
  have high := value.toInt_lt
  have fits : -9223372036854775808 ≤ value.toInt ∧ value.toInt < 18446744073709551616 := by omega
  have within : -2147483648 ≤ value.toInt ∧ value.toInt ≤ 2147483647 := by omega
  simp only [int32, Json.ofInt, Number.ofInt?, dif_pos fits, Option.elim_some, integer, if_pos within]
  rw [Except.map, Int32.ofInt_toInt]

end Decoder

end Verdict
