import Verdict.Json.Reader
import Verdict.Proofs.Json.Order
/-!
What is read from a text lists the keys of its objects in ascending order, at every depth, in whatever order the
text does: each field is put in its place when it is read.
-/

namespace Verdict.Json

theorem length_lt_of_skipSpace {characters rest : List Char} {first : Char}
    (shape : skipSpace characters = first :: rest) : rest.length < characters.length := by
  have shorter := skipSpace_length_le characters
  rw [shape, List.length_cons] at shorter
  exact shorter

/-- What is read from texts of at most some length is ordered, if what was read before is. -/
structure ReadsOrdered (size : Nat) : Prop where
  value {room : Nat} {path : List PathStep} {characters : List Char} {value : Json} {rest : Rest characters}
    (short : characters.length ≤ size) (done : readValue room path characters = .ok (value, rest)) : value.Ordered
  items {room place : Nat} {path : List PathStep} {read : List Json} {characters : List Char}
    {items : List Json} {rest : Rest characters} (short : characters.length ≤ size)
    (before : ∀ item ∈ read, item.Ordered) (done : readItems room path place read characters = .ok (items, rest)) :
    ∀ item ∈ items, item.Ordered
  fields {room : Nat} {path : List PathStep} {atStart : Bool} {read : Fields} {characters : List Char}
    {fields : Fields} {rest : Rest characters} (short : characters.length ≤ size) (before : read.Ordered)
    (done : readFields room path atStart read characters = .ok (fields, rest)) : fields.Ordered
  field {room : Nat} {path : List PathStep} {characters : List Char} {key : String} {value : Json}
    {rest : Rest characters} (short : characters.length ≤ size)
    (done : readField room path characters = .ok (key, value, rest)) : value.Ordered

section Step

variable {size room place : Nat} {path : List PathStep} {characters : List Char}

theorem ordered_of_readConstant {word : List Char} {constant : Json} (ordered : constant.Ordered)
    {value : Json} {rest : Remainder characters}
    (done : readConstant path word constant characters = .ok (value, rest)) : value.Ordered := by
  rw [readConstant] at done
  cases found : readWord path word characters with
  | error stop => rw [found] at done; cases done
  | ok left => rw [found] at done; cases done; exact ordered

theorem ordered_readValue (shorter : ∀ less < size, ReadsOrdered less) {value : Json} {rest : Rest characters}
    (short : characters.length ≤ size) (done : readValue room path characters = .ok (value, rest)) :
    value.Ordered := by
  unfold readValue at done
  split at done
  next => cases done
  next first rest shape =>
    have inner := shorter rest.length (Nat.lt_of_lt_of_le (length_lt_of_skipSpace shape) short)
    split at done
    next =>
      split at done
      next => cases done
      next =>
        split at done
        next => cases done
        next items final _ found =>
          cases done
          exact .array (inner.items (Nat.le_refl _) (List.forall_mem_nil _) found)
    next =>
      split at done
      next =>
        split at done
        next => cases done
        next =>
          split at done
          next => cases done
          next fields final _ found =>
            cases done
            exact inner.fields (Nat.le_refl _) .nil found
      next =>
        split at done
        next =>
          split at done
          next => cases done
          next => cases done; exact .string _
        next =>
          split at done
          next =>
            split at done
            next => cases done
            next => cases done; exact .number _
          next =>
            split at done
            next => cases done
            next value final _ found =>
              cases done
              split at found
              next => exact ordered_of_readConstant .null found
              next =>
                split at found
                next => exact ordered_of_readConstant (.bool true) found
                next =>
                  split at found
                  next => exact ordered_of_readConstant (.bool false) found
                  next => cases found

theorem ordered_readField (shorter : ∀ less < size, ReadsOrdered less) {key : String} {value : Json}
    {rest : Rest characters} (short : characters.length ≤ size)
    (done : readField room path characters = .ok (key, value, rest)) : value.Ordered := by
  unfold readField at done
  split at done
  next => cases done
  next key afterKey keyShorter _ =>
    split at done
    next => cases done
    next mark rest shape =>
      have inner := shorter rest.length (by have := length_lt_of_skipSpace shape; omega)
      split at done
      next =>
        split at done
        next => cases done
        next found => cases done; exact inner.value (Nat.le_refl _) found
      next => cases done

theorem ordered_readItems (shorter : ∀ less < size, ReadsOrdered less) {read items : List Json}
    {rest : Rest characters} (short : characters.length ≤ size) (before : ∀ item ∈ read, item.Ordered)
    (done : readItems room path place read characters = .ok (items, rest)) : ∀ item ∈ items, item.Ordered := by
  unfold readItems at done
  split at done
  next => cases done
  next first rest shape =>
    have spaced := length_lt_of_skipSpace shape
    split at done
    next =>
      cases done
      exact fun item mem => before item (List.mem_reverse.1 mem)
    next =>
      split at done
      next =>
        split at done
        next => cases done
        next item next nextShorter found =>
          split at done
          next => cases done
          next found' =>
            cases done
            have only : ∀ other ∈ [item], other.Ordered := List.forall_mem_singleton.2 (ordered_readValue shorter short found)
            exact (shorter next.length (by omega)).items (Nat.le_refl _) only found'
      next =>
        split at done
        next =>
          split at done
          next => cases done
          next =>
            split at done
            next => cases done
            next =>
              split at done
              next => cases done
              next item next nextShorter found =>
                split at done
                next => cases done
                next found' =>
                  cases done
                  have more : ∀ other ∈ item :: read, other.Ordered :=
                    List.forall_mem_cons.2 ⟨ordered_readValue shorter (by omega) found, before⟩
                  exact (shorter next.length (by omega)).items (Nat.le_refl _) more found'
        next => cases done

theorem ordered_readFields (shorter : ∀ less < size, ReadsOrdered less) {atStart : Bool} {read fields : Fields}
    {rest : Rest characters} (short : characters.length ≤ size) (before : read.Ordered)
    (done : readFields room path atStart read characters = .ok (fields, rest)) : fields.Ordered := by
  have goOn {text : List Char} {key : String} {value : Json} {next : Rest text} {final : Rest next.1}
      (less : text.length < size) (found : readField room path text = .ok (key, value, next))
      (found' : readFields room path false (read.insert key value) next = .ok (fields, final)) : fields.Ordered := by
    have inner : value.Ordered := (shorter text.length less).field (Nat.le_refl _) found
    exact (shorter next.1.length (Nat.lt_trans next.2 less)).fields (Nat.le_refl _) (before.insert key inner) found'
  unfold readFields at done
  split at done
  next => cases done
  next first rest shape =>
    have spaced := length_lt_of_skipSpace shape
    split at done
    next => cases done; exact before
    next =>
      split at done
      next =>
        split at done
        next =>
          split at done
          next => cases done
          next key value next nextShorter found =>
            split at done
            next => cases done
            next found' => cases done; exact goOn (by omega) found found'
        next => cases done
      next =>
        split at done
        next =>
          split at done
          next => cases done
          next second after afterComma =>
            have spacedAfter := length_lt_of_skipSpace afterComma
            split at done
            next =>
              split at done
              next => cases done
              next key value next nextShorter found =>
                split at done
                next => cases done
                next found' => cases done; exact goOn (by omega) found found'
            next =>
              split at done
              next => cases done
              next => cases done
        next => cases done

end Step

/-- Every step but one goes on with a shorter text; the first item is read from the whole text of the array. -/
theorem readsOrdered (size : Nat) : ReadsOrdered size := by
  induction size using Nat.strongRecOn with
  | ind size shorter =>
    exact {
      value := ordered_readValue shorter
      items := ordered_readItems shorter
      fields := ordered_readFields shorter
      field := ordered_readField shorter }

/-- Every value that is read from a text is ordered. -/
theorem ordered_read {text : String} {value : Json} (done : read text = .ok value) : value.Ordered := by
  rw [read] at done
  split at done
  next => cases done
  next found =>
    split at done
    next =>
      cases done
      exact (readsOrdered _).value (Nat.le_refl _) found
    next => cases done

end Verdict.Json
