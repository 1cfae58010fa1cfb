import Verdict.Proofs.Json.Agreement
/-!
Being alike is an equivalence of values if it is one of their numbers: values are alike themselves, from either side
and in chains. For values whose objects list their keys in ascending order this makes agreement an equivalence.
-/

namespace Verdict

theorem Number.level_equivalence : Equivalence Number.Level :=
  ⟨fun _ => rfl, Eq.symm, Eq.trans⟩

namespace Json

variable {related : Number → Number → Prop}

mutual

theorem Alike.refl (reflexive : ∀ number, related number number) : ∀ value : Json, value.Alike related value
  | .null => .null
  | .bool value => .bool value
  | .number value => .number (reflexive value)
  | .string value => .string value
  | .array items => .array (itemsAlike_refl reflexive items)
  | .object fields => .object (fieldsAlike_refl reflexive fields)

theorem itemsAlike_refl (reflexive : ∀ number, related number number) :
    ∀ items : List Json, List.Forall₂ (Alike related) items items
  | [] => .nil
  | first :: rest => .cons (Alike.refl reflexive first) (itemsAlike_refl reflexive rest)

theorem fieldsAlike_refl (reflexive : ∀ number, related number number) :
    ∀ (fields : List (String × Json)) (key : String),
      Option.Rel (Alike related) (Fields.get? fields key) (Fields.get? fields key)
  | [], _ => .none
  | (first, value) :: rest, key => by
    rw [Fields.get?]
    split
    · exact .some (Alike.refl reflexive value)
    · exact fieldsAlike_refl reflexive rest key

end

section

variable (equivalence : Equivalence related)

include equivalence

theorem Alike.symm {left right : Json} (alike : left.Alike related right) : right.Alike related left := by
  -- As a relation of lists and of looked-up values, being alike is turned round inside of the recursion.
  refine @Alike.rec related (fun left right _ => Alike related right left)
    (fun left right _ => List.Forall₂ (Alike related) right left)
    (fun left right _ => Option.Rel (Alike related) right left)
    .null .bool ?number .string ?array ?object .nil ?cons ?some .none left right alike
  case number => exact fun same => .number (equivalence.symm same)
  case array => exact fun _ each => .array each
  case object => exact fun _ each => .object each
  case cons => exact fun _ _ first rest => .cons first rest
  case some => exact fun _ inner => .some inner

theorem Alike.trans {left middle right : Json} (alike : left.Alike related middle)
    (further : middle.Alike related right) : left.Alike related right := by
  -- The value at the end of the chain is left open, so that the induction is on the first link alone.
  refine @Alike.rec related (fun left middle _ => ∀ right, middle.Alike related right → left.Alike related right)
    (fun left middle _ => ∀ right, List.Forall₂ (Alike related) middle right → List.Forall₂ (Alike related) left right)
    (fun left middle _ => ∀ right, Option.Rel (Alike related) middle right → Option.Rel (Alike related) left right)
    ?null ?bool ?number ?string ?array ?object ?nil ?cons ?some ?none left middle alike right further
  case null => exact fun _ further => further
  case bool => exact fun _ _ further => further
  case string => exact fun _ _ further => further
  case number =>
    intro _ _ same _ further
    cases further with
    | number next => exact .number (equivalence.trans same next)
  case array =>
    intro _ _ _ each _ further
    cases further with
    | array next => exact .array (each _ next)
  case object =>
    intro _ _ _ each _ further
    cases further with
    | object next => exact .object (fun key => each key _ (next key))
  case nil => exact fun _ further => further
  case cons =>
    intro _ _ _ _ _ _ first rest _ further
    cases further with
    | cons next later => exact .cons (first _ next) (rest _ later)
  case some =>
    intro _ _ _ inner _ further
    cases further with
    | some next => exact .some (inner _ next)
  case none => exact fun _ further => further

end

/-- A value that lists the keys of its objects in ascending order, as all do that are read. -/
abbrev InOrder := { value : Json // value.Ordered }

/-- Whether two values agree. -/
def InOrder.Same (left right : InOrder) : Prop :=
  left.1.agrees right.1 = true

theorem InOrder.same_iff {left right : InOrder} : left.Same right ↔ left.1.Alike Number.Level right.1 :=
  agrees_iff left.1 right.1 left.2 right.2

theorem InOrder.same_equivalence : Equivalence InOrder.Same where
  refl value := same_iff.2 (.refl Number.level_equivalence.refl value.1)
  symm same := same_iff.2 ((same_iff.1 same).symm Number.level_equivalence)
  trans same next := same_iff.2 ((same_iff.1 same).trans Number.level_equivalence (same_iff.1 next))

end Json

end Verdict
