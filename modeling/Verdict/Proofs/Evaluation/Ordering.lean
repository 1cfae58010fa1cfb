import Verdict.Evaluation.Condition
import Verdict.Proofs.Json.Agreement
/-!
The ordering comparisons of conditions and of expressions. Both compare the values of the numbers that two values
stand for, and neither holds if one of them stands for none; only two texts are compared by their characters in
expressions.
-/

namespace Verdict

open Decimal (Binary)
open Expression (Comparator)

namespace Expression.Comparator

/-- The operator of a condition on a field that asks for the same comparison. -/
def operator : Comparator → Operator
  | greater => .greaterThan
  | less => .lessThan
  | greaterEqual => .greaterEqual
  | lessEqual => .lessEqual
  | equal => .equals
  | different => .notEquals

/-- The comparisons that ask for an order. -/
def isOrdering : Comparator → Bool
  | equal | different => false
  | _ => true

/-- A comparison of two numbers, which does not hold if one of them is missing. -/
def between (comparator : Comparator) : Option ℚ → Option ℚ → Bool
  | some left, some right => comparator.holds (compare left right)
  | _, _ => false

section Rational

variable {left right : ℚ}

theorem greater_holds_iff : greater.holds (compare left right) = true ↔ right < left :=
  beq_iff_eq.trans compare_gt_iff_gt

theorem less_holds_iff : less.holds (compare left right) = true ↔ left < right :=
  beq_iff_eq.trans compare_lt_iff_lt

theorem greaterEqual_holds_iff : greaterEqual.holds (compare left right) = true ↔ right ≤ left := by
  rw [holds, bne_iff_ne, Ne, compare_lt_iff_lt, not_lt]

theorem lessEqual_holds_iff : lessEqual.holds (compare left right) = true ↔ left ≤ right := by
  rw [holds, bne_iff_ne, Ne, compare_gt_iff_gt, not_lt]

end Rational

end Expression.Comparator

namespace Json

/-- The value by which a value is compared in an order, if it stands for a number. -/
def weight? (value : Json) : Option ℚ :=
  value.asFloat?.map (fun number => (Binary.ofFloat number).value)

theorem isFinite_of_asFloat? {value : Json} {number : Float} (found : value.asFloat? = some number) :
    number.isFinite = true := by
  cases value with
  | number value =>
    obtain rfl := Option.some.inj found
    exact value.isFinite_toFloat
  | string text =>
    rw [asFloat?, Decimal.readFinite, Option.filter_eq_some_iff] at found
    exact found.2
  | null | bool | array | object => cases found

theorem weight?_number (number : Number) : weight? (.number number) = some number.weight :=
  congrArg some number.value_toFloat

/-- Values that are alike have one weight. -/
theorem Alike.weight?_eq {left right : Json} (alike : left.Alike Number.Level right) :
    left.weight? = right.weight? := by
  cases alike with
  | number same =>
    rw [weight?_number, weight?_number]
    exact congrArg some same
  | null | bool | string | array | object => rfl

end Json

section Comparison

variable {comparator : Comparator}

theorem Operator.ordered_eq_between {related : Float → Float → Bool}
    (spec : ∀ {left right : Float}, left.isFinite = true → right.isFinite = true →
      (related left right = true ↔
        comparator.holds (compare (Binary.ofFloat left).value (Binary.ofFloat right).value) = true))
    (actual : Option Json) (expected : Json) :
    ordered related actual expected = comparator.between (actual.bind Json.weight?) expected.weight? := by
  have weights : actual.bind Json.weight? =
      (actual.bind Json.asFloat?).map (fun number => (Binary.ofFloat number).value) :=
    Option.map_bind.symm
  rw [ordered, weights, Json.weight?]
  cases found : actual.bind Json.asFloat? with
  | none => rfl
  | some left =>
    cases found' : expected.asFloat? with
    | none => rfl
    | some right =>
      obtain ⟨value, -, stands⟩ := Option.bind_eq_some_iff.1 found
      exact Bool.eq_iff_iff.2 (spec (Json.isFinite_of_asFloat? stands) (Json.isFinite_of_asFloat? found'))

/-- An ordering operator compares the values of two numbers. -/
theorem Expression.Comparator.operator_holds (ordering : comparator.isOrdering = true) (actual : Option Json)
    (expected : Json) :
    comparator.operator.holds actual expected = comparator.between (actual.bind Json.weight?) expected.weight? := by
  cases comparator with
  | greater =>
    refine Operator.ordered_eq_between (fun finite finite' => ?_) actual expected
    rw [Comparator.greater_holds_iff, ← Decimal.lt_iff_value_lt finite' finite, decide_eq_true_iff]
  | less =>
    refine Operator.ordered_eq_between (fun finite finite' => ?_) actual expected
    rw [Comparator.less_holds_iff, ← Decimal.lt_iff_value_lt finite finite', decide_eq_true_iff]
  | greaterEqual =>
    refine Operator.ordered_eq_between (fun finite finite' => ?_) actual expected
    rw [Comparator.greaterEqual_holds_iff, ← Decimal.le_iff_value_le finite' finite, decide_eq_true_iff]
  | lessEqual =>
    refine Operator.ordered_eq_between (fun finite finite' => ?_) actual expected
    rw [Comparator.lessEqual_holds_iff, ← Decimal.le_iff_value_le finite finite', decide_eq_true_iff]
  | equal | different => cases ordering

theorem Json.satisfies_of_ordering (ordering : comparator.isOrdering = true) (left right : Json) :
    left.satisfies comparator right = (left.order? right).any comparator.holds := by
  cases comparator with
  | greater | less | greaterEqual | lessEqual => rfl
  | equal | different => cases ordering

/-- Texts are compared by their characters. -/
theorem Json.satisfies_texts (ordering : comparator.isOrdering = true) (text other : String) :
    (Json.string text).satisfies comparator (.string other) = comparator.holds (compare text other) :=
  satisfies_of_ordering ordering _ _

/-- Two values of which one is no text are ordered as the numbers that they stand for. -/
theorem Json.order?_eq {left right : Json} (apart : (left.isString && right.isString) = false) :
    left.order? right = left.weight?.bind (fun value => right.weight?.map (compare value)) := by
  have numbers : left.order? right = left.asFloat?.bind (fun first => right.asFloat?.bind (fun second =>
      if first < second then some .lt
      else if first == second then some .eq
      else if second < first then some .gt
      else none)) := by
    unfold order?
    split
    · cases apart
    · cases left.asFloat? <;> cases right.asFloat? <;> rfl
  rw [numbers, weight?, weight?]
  cases found : left.asFloat? with
  | none => rfl
  | some first =>
    cases found' : right.asFloat? with
    | none => rfl
    | some second =>
      have finite := isFinite_of_asFloat? found
      have finite' := isFinite_of_asFloat? found'
      simp only [Decimal.lt_iff_value_lt finite finite', Decimal.lt_iff_value_lt finite' finite,
        Decimal.beq_iff_value_eq finite finite', Option.map_some, Option.bind_some]
      obtain smaller | same | greater := lt_trichotomy (Binary.ofFloat first).value (Binary.ofFloat second).value
      · rw [if_pos smaller, compare_lt_iff_lt.2 smaller]
      · rw [if_neg (same ▸ lt_irrefl _), if_pos same, compare_eq_iff_eq.2 same]
      · rw [if_neg greater.asymm, if_neg greater.ne', if_pos greater, compare_gt_iff_gt.2 greater]

theorem Json.satisfies_eq_between (ordering : comparator.isOrdering = true) {left right : Json}
    (apart : (left.isString && right.isString) = false) :
    left.satisfies comparator right = comparator.between left.weight? right.weight? := by
  rw [satisfies_of_ordering ordering, order?_eq apart]
  cases left.weight? with
  | none => rfl
  | some value => cases right.weight? <;> rfl

end Comparison

end Verdict
