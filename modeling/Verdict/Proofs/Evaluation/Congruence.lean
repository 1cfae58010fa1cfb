import Verdict.Proofs.Evaluation.Ordering
import Verdict.Proofs.Json.Equivalence
/-!
Values that agree are one value for every operator but the two that look at texts: whichever of them a field holds,
and whichever a condition expects, the operator comes out the same.
-/

namespace Verdict

open Expression (Comparator)

namespace Json

/-- The items of two arrays that agree, place by place. -/
theorem InOrder.items?_rel {expected expected' : InOrder} (same : expected.Same expected') :
    Option.Rel (List.Forall₂ (fun item item' => item.Ordered ∧ item'.Ordered ∧ item.agrees item' = true))
      expected.1.items? expected'.1.items? := by
  obtain ⟨value, ordered⟩ := expected
  obtain ⟨value', ordered'⟩ := expected'
  have alike := InOrder.same_iff.1 same
  cases alike with
  | null | bool | number | string | object => exact .none
  | array each =>
    cases ordered with
    | array items =>
      cases ordered' with
      | array items' =>
        refine .some (List.forall₂_iff_get.2 ⟨each.length_eq, fun place bound bound' => ?_⟩)
        have item := items _ (List.get_mem _ ⟨place, bound⟩)
        have item' := items' _ (List.get_mem _ ⟨place, bound'⟩)
        exact ⟨item, item', (agrees_iff _ _ item item').2 (each.get bound bound')⟩

theorem InOrder.agrees_congr {left left' right right' : InOrder} (same : left.Same left')
    (same' : right.Same right') : left.1.agrees right.1 = left'.1.agrees right'.1 := by
  have equivalence := InOrder.same_equivalence
  refine Bool.eq_iff_iff.2 ⟨fun agree => ?_, fun agree => ?_⟩
  · exact equivalence.trans (equivalence.symm same) (equivalence.trans agree same')
  · exact equivalence.trans same (equivalence.trans agree (equivalence.symm same'))

end Json

open Json (InOrder)

namespace Operator

/-- What agrees with a value is a member of the same arrays, and of arrays that agree. -/
theorem isMember_congr {found found' : Option InOrder} (same : Option.Rel InOrder.Same found found')
    {items items' : List Json}
    (each : List.Forall₂ (fun item item' => item.Ordered ∧ item'.Ordered ∧ item.agrees item' = true) items items') :
    isMember (found.map Subtype.val) items = isMember (found'.map Subtype.val) items' := by
  cases same with
  | none => rfl
  | some agree =>
    simp only [isMember, Option.map_some, Option.any_some]
    induction each with
    | nil => rfl
    | cons first _ ih =>
      obtain ⟨item, item', agree'⟩ := first
      rw [List.any_cons, List.any_cons, ih,
        InOrder.agrees_congr agree (show InOrder.Same ⟨_, item⟩ ⟨_, item'⟩ from agree')]

section

variable {found found' : Option InOrder} {expected expected' : InOrder}
  (same : Option.Rel InOrder.Same found found') (same' : expected.Same expected')

include same same'

theorem any_agrees_congr :
    (found.map Subtype.val).any (·.agrees expected.1) = (found'.map Subtype.val).any (·.agrees expected'.1) := by
  cases same with
  | none => rfl
  | some agree => exact InOrder.agrees_congr agree same'

theorem ordering_congr {comparator : Comparator} (ordering : comparator.isOrdering = true) :
    comparator.operator.holds (found.map Subtype.val) expected.1 =
      comparator.operator.holds (found'.map Subtype.val) expected'.1 := by
  have weights : (found.map Subtype.val).bind Json.weight? = (found'.map Subtype.val).bind Json.weight? := by
    cases same with
    | none => rfl
    | some agree => exact (InOrder.same_iff.1 agree).weight?_eq
  rw [Comparator.operator_holds ordering, Comparator.operator_holds ordering, weights,
    (InOrder.same_iff.1 same').weight?_eq]

/-- Both tests for membership look only at whether the expected value is an array that has the found one. -/
theorem members_congr (verdict : Bool → Bool) :
    expected.1.items?.any (fun items => verdict (isMember (found.map Subtype.val) items)) =
      expected'.1.items?.any (fun items => verdict (isMember (found'.map Subtype.val) items)) := by
  have items := InOrder.items?_rel same'
  generalize expected.1.items? = left at items
  generalize expected'.1.items? = right at items
  cases items with
  | none => rfl
  | some each => exact congrArg verdict (isMember_congr same each)

omit same'

theorem presence_congr : Presence.of (found.map Subtype.val) = Presence.of (found'.map Subtype.val) := by
  cases same with
  | none => rfl
  | @some left right agree =>
    obtain ⟨left, _⟩ := left
    obtain ⟨right, _⟩ := right
    have alike := InOrder.same_iff.1 agree
    cases alike <;> rfl

end

end Operator

/-- Agreement is an equivalence of values, and every operator that does not look at texts respects it on both
sides. -/
theorem operators_respect_agreement :
    Equivalence InOrder.Same ∧
    ∀ operator : Operator, operator ≠ .contains → operator ≠ .notContains →
      ∀ {found found' : Option InOrder} {expected expected' : InOrder},
        Option.Rel InOrder.Same found found' → expected.Same expected' →
          operator.holds (found.map Subtype.val) expected.1 = operator.holds (found'.map Subtype.val) expected'.1 := by
  refine ⟨InOrder.same_equivalence, fun operator notContains notNotContains => ?_⟩
  intro found found' expected expected' same same'
  cases operator with
  | equals => exact Operator.any_agrees_congr same same'
  | notEquals => exact congrArg not (Operator.any_agrees_congr same same')
  | greaterThan => exact Operator.ordering_congr same same' (rfl : Comparator.isOrdering .greater = true)
  | lessThan => exact Operator.ordering_congr same same' (rfl : Comparator.isOrdering .less = true)
  | greaterEqual => exact Operator.ordering_congr same same' (rfl : Comparator.isOrdering .greaterEqual = true)
  | lessEqual => exact Operator.ordering_congr same same' (rfl : Comparator.isOrdering .lessEqual = true)
  | contains => exact absurd rfl notContains
  | notContains => exact absurd rfl notNotContains
  | isIn => exact Operator.members_congr same same' id
  | notIn => exact Operator.members_congr same same' not
  | «exists» => exact congrArg Presence.exists (Operator.presence_congr same)
  | notExists => exact congrArg (fun presence => !presence.exists) (Operator.presence_congr same)

/-- A list of one amount, and a choice between no amount and this list. -/
def amountList (amount : Number) : InOrder :=
  ⟨.array [.number amount], .array (List.forall_mem_singleton.2 (.number amount))⟩

def amountChoice (amount : Number) : InOrder :=
  ⟨.array [.null, (amountList amount).1],
    .array (List.forall_mem_cons.2 ⟨.null, List.forall_mem_singleton.2 (amountList amount).2⟩)⟩

def wholeHundred : Number := .integer 100 (by decide)

def hundredWithPoint : Number := .float ⟨100, by decide +kernel⟩

theorem hundreds_interchangeable :
    (amountList wholeHundred).Same (amountList hundredWithPoint) ∧
      (amountChoice hundredWithPoint).Same (amountChoice wholeHundred) ∧
      Operator.isIn.holds (some (amountList wholeHundred).1) (amountChoice hundredWithPoint).1 =
        Operator.isIn.holds (some (amountList hundredWithPoint).1) (amountChoice wholeHundred).1 := by
  have same : (amountList wholeHundred).Same (amountList hundredWithPoint) :=
    show Json.agrees _ _ = true by decide +kernel
  have same' : (amountChoice hundredWithPoint).Same (amountChoice wholeHundred) :=
    show Json.agrees _ _ = true by decide +kernel
  exact ⟨same, same', operators_respect_agreement.2 .isIn (by decide) (by decide) (.some same) same'⟩

/-- The texts of values that agree may differ: those of zero and minus zero do. -/
example :
    Json.agrees (.number (.integer 0 (by decide))) (.number (.float ⟨-0.0, by decide +kernel⟩)) = true ∧
      Operator.contains.holds (some (.number (.integer 0 (by decide)))) (.string "-") = false ∧
      Operator.contains.holds (some (.number (.float ⟨-0.0, by decide +kernel⟩))) (.string "-") = true := by
  decide +kernel

end Verdict
