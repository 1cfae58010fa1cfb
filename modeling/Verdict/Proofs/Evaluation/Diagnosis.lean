import Mathlib.Data.List.Forall2
import Verdict.Evaluation.Summary
/-!
What the error of a condition result means. A condition with an error has failed; in strict mode an ordering
has an error exactly if one of its sides stands for no number, which is also when the ordering fails for want
of numbers. Apart from the error, strict mode changes nothing in a condition result.
-/

namespace Verdict

open Expression (parse)
open Time (Instant)

theorem numberFault_isSome_iff (path : String) (actual : Option Json) (expected : Json) :
    (numberFault path actual expected).isSome = true ↔
      actual.bind Json.asFloat? = none ∨ expected.asFloat? = none := by
  cases actual with
  | none => simp [numberFault]
  | some found =>
    cases left : found.asFloat? with
    | none => simp [numberFault, left]
    | some number => cases right : expected.asFloat? <;> simp [numberFault, left, right]

namespace Operator

variable {operator : Operator} {actual : Option Json} {expected : Json}

theorem ordered_eq_false (related : Float → Float → Bool)
    (noNumber : actual.bind Json.asFloat? = none ∨ expected.asFloat? = none) :
    ordered related actual expected = false := by
  rcases noNumber with left | right
  · rw [ordered, left]
  · rw [ordered, right]
    split <;> simp_all

/-- The comparison of numbers and the search for a fault look at the same two readings. -/
theorem holds_eq_false (numeric : operator.isNumeric = true)
    (noNumber : actual.bind Json.asFloat? = none ∨ expected.asFloat? = none) :
    operator.holds actual expected = false := by
  cases operator with
  | greaterThan => exact ordered_eq_false _ noNumber
  | lessThan => exact ordered_eq_false _ noNumber
  | greaterEqual => exact ordered_eq_false _ noNumber
  | lessEqual => exact ordered_eq_false _ noNumber
  | _ => cases numeric

end Operator

/-- A condition result without its error. -/
def ConditionResult.withoutFault (outcome : ConditionResult) : ConditionResult :=
  { outcome with fault := none }

namespace Condition

/-- What the error of a result of a condition on a record means. -/
structure Diagnosed (condition : Condition) (record : Record) (strict : Bool) (outcome : ConditionResult) :
    Prop where
  failed : outcome.fault.isSome = true → outcome.passed = false
  numeric : ∀ (path : String) (operator : Operator) (expected : Json),
    condition.test = .field path operator expected → operator.isNumeric = true → path ≠ "" → strict = true →
      (outcome.fault.isSome = true ↔
        (record.resolve path).bind Json.asFloat? = none ∨ expected.asFloat? = none)

theorem diagnosed_fieldResult (record : Record) (path : String) (operator : Operator) (expected : Json)
    (connective : Connective) (strict : Bool) :
    Diagnosed ⟨.field path operator expected, connective⟩ record strict
      (fieldResult record path operator expected strict) := by
  by_cases empty : path.isEmpty = true
  · have nameless : path = "" := String.isEmpty_iff.1 empty
    rw [fieldResult, if_pos empty]
    constructor
    case failed => exact fun _ => rfl
    case numeric =>
      intro named _ _ same _ notEmpty _
      cases same
      exact absurd nameless notEmpty
  · rw [fieldResult, if_neg empty]
    by_cases ordering : (strict && operator.isNumeric) = true
    · have numeric : operator.isNumeric = true := (Bool.and_eq_true_iff.1 ordering).2
      have found := numberFault_isSome_iff path (Record.resolve record path) expected
      simp only [ordering, if_true]
      constructor
      case failed => exact fun faulty => Operator.holds_eq_false numeric (found.1 faulty)
      case numeric =>
        intro _ _ _ same _ _ _
        cases same
        exact found
    · simp only [ordering]
      constructor
      case failed => intro impossible; cases impossible
      case numeric =>
        intro _ _ _ same numeric _ strictly
        cases same
        exact absurd (Bool.and_eq_true_iff.2 ⟨strictly, numeric⟩) ordering

theorem diagnosed_evaluate (condition : Condition) (record : Record) (program : Option Expr)
    (strict : Bool) (now : Instant) :
    condition.Diagnosed record strict (condition.evaluate record program strict now) := by
  obtain ⟨test, connective⟩ := condition
  cases test with
  | field path operator expected =>
    exact diagnosed_fieldResult record path operator expected connective strict
  | expression source =>
    -- Results of expressions have an error only where parsing failed, and then a false verdict.
    have failed : ((evaluate ⟨.expression source, connective⟩ record program strict now).fault.isSome = true →
        (evaluate ⟨.expression source, connective⟩ record program strict now).passed = false) := by
      cases program with
      | some program => intro impossible; cases impossible
      | none =>
        cases parsed : parse source with
        | ok program => simp [evaluate, parsed, expressionResult]
        | error error => simp [evaluate, parsed, ConditionResult.failed]
    exact ⟨failed, fun _ _ _ same => nomatch same⟩

theorem withoutFault_evaluate (condition : Condition) (record : Record) (program : Option Expr)
    (strict other : Bool) (now : Instant) :
    (condition.evaluate record program strict now).withoutFault =
      (condition.evaluate record program other now).withoutFault := by
  obtain ⟨test, connective⟩ := condition
  cases test with
  | expression source => cases program <;> rfl
  | field path operator expected =>
    change (fieldResult record path operator expected strict).withoutFault =
      (fieldResult record path operator expected other).withoutFault
    by_cases empty : path.isEmpty = true
    · rw [fieldResult, fieldResult, if_pos empty, if_pos empty]
    · rw [fieldResult, fieldResult, if_neg empty, if_neg empty]
      rfl

theorem map_withoutFault_evaluateAll (record : Record) (strict other : Bool) (now : Instant)
    (conditions : List Condition) (programs : List (Option Expr)) :
    (evaluateAll record strict now conditions programs).map ConditionResult.withoutFault =
      (evaluateAll record other now conditions programs).map ConditionResult.withoutFault := by
  induction conditions generalizing programs with
  | nil => rfl
  | cons condition rest ih =>
    rw [evaluateAll, evaluateAll, List.map_cons, List.map_cons, ih,
      condition.withoutFault_evaluate record _ strict other]

theorem forall₂_diagnosed_evaluateAll (record : Record) (strict : Bool) (now : Instant)
    (conditions : List Condition) (programs : List (Option Expr)) :
    List.Forall₂ (fun condition outcome => condition.Diagnosed record strict outcome) conditions
      (evaluateAll record strict now conditions programs) := by
  induction conditions generalizing programs with
  | nil => exact .nil
  | cons condition rest ih => exact .cons (condition.diagnosed_evaluate record _ strict now) (ih _)

end Condition

end Verdict
