import Verdict.Error
import Verdict.Expression.Evaluation
import Verdict.Json.Content
import Verdict.Rule.Basic
/-!
The verdict of one condition on a record, with what was expected and found. A condition that cannot be
evaluated fails with the reason; in strict mode an ordering of things that are no numbers also gives the
reason, while its verdict stays.
-/

namespace Verdict

open Expression (parse)
open Time (Instant)

namespace Operator

/-- Whether the numbers that two values stand for are in a relation; false if one stands for none. -/
def ordered (related : Float → Float → Bool) (actual : Option Json) (expected : Json) : Bool :=
  match actual.bind Json.asFloat?, expected.asFloat? with
  | some left, some right => related left right
  | _, _ => false

def containsText (actual : Option Json) (expected : Json) : Bool :=
  actual.any (fun found => Text.occursIn expected.displayText.toList found.displayText.toList)

def isMember (actual : Option Json) (items : List Json) : Bool :=
  actual.any (fun found => items.any found.agrees)

/-- Whether an operator holds of what a path leads to and the expected value. The two tests for membership
both fail when the expected value is no array. -/
def holds (operator : Operator) (actual : Option Json) (expected : Json) : Bool :=
  match operator with
  | equals => actual.any (fun found => found.agrees expected)
  | notEquals => !actual.any (fun found => found.agrees expected)
  | greaterThan => ordered (fun left right => right < left) actual expected
  | lessThan => ordered (fun left right => left < right) actual expected
  | greaterEqual => ordered (fun left right => right ≤ left) actual expected
  | lessEqual => ordered (fun left right => left ≤ right) actual expected
  | contains => containsText actual expected
  | notContains => !containsText actual expected
  | isIn => expected.items?.any (isMember actual)
  | notIn => expected.items?.any (fun items => !isMember actual items)
  | «exists» => (Presence.of actual).exists
  | notExists => !(Presence.of actual).exists

end Operator

structure ConditionResult where
  subject : String
  operator : String
  expected : Json
  actual : Option Json
  passed : Bool
  fault : Option ConditionFault
deriving Repr

namespace ConditionResult

def message (result : ConditionResult) : String :=
  if result.passed then "Condition satisfied" else "Condition not satisfied"

def toJson (result : ConditionResult) : Json :=
  .object
    ((result.actual.map (fun value => ("actualValue", value))).toList ++
      (result.fault.map
        (fun fault => ("error", Json.string (RuleError.evaluation fault).message))).toList ++
      [("expectedValue", result.expected), ("field", .string result.subject),
        ("message", .string result.message), ("operator", .string result.operator),
        ("passed", .bool result.passed)])

def content (result : ConditionResult) : Content :=
  .fields
    ([(some "field", .text result.subject), (some "operator", .text result.operator),
        (some "expectedValue", .value result.expected)] ++
      Content.optional "actualValue" (result.actual.map .value) ++
      [(some "passed", .value (.bool result.passed)), (some "message", .text result.message)] ++
      Content.optional "error" (result.fault.map (fun fault => .text (RuleError.evaluation fault).message)))

def failed (subject operator : String) (expected : Json) (fault : ConditionFault) : ConditionResult :=
  ⟨subject, operator, expected, none, false, some fault⟩

end ConditionResult

def expressionOperator : String := "expression"

/-- Which operand of an ordering is no number: the field before the expected value. -/
def numberFault (path : String) (actual : Option Json) (expected : Json) : Option ConditionFault :=
  match actual with
  | none => some (.missingField path)
  | some found =>
    if found.asFloat?.isNone then some (.fieldNotNumber path found.kindName)
    else if expected.asFloat?.isNone then some (.expectedNotNumber expected.kindName)
    else none

def fieldResult (record : Record) (path : String) (operator : Operator) (expected : Json) (strict : Bool) :
    ConditionResult :=
  if path.isEmpty then .failed path operator.name expected .emptyPath
  else
    let actual := record.resolve path
    ⟨path, operator.name, expected, actual, operator.holds actual expected,
      if strict && operator.isNumeric then numberFault path actual expected else none⟩

def expressionResult (record : Record) (source : String) (program : Expr) (now : Instant) :
    ConditionResult :=
  let passed := program.holds record now
  ⟨source, expressionOperator, .bool true, some (.bool passed), passed, none⟩

/-- The result of a condition on a record at a time. An expression that was parsed before need not be
parsed again. -/
def Condition.evaluate (condition : Condition) (record : Record) (program : Option Expr) (strict : Bool)
    (now : Instant) : ConditionResult :=
  match condition.test, program with
  | .field path operator expected, _ => fieldResult record path operator expected strict
  | .expression source, some program => expressionResult record source program now
  | .expression source, none =>
    match parse source with
    | .ok program => expressionResult record source program now
    | .error error => .failed source expressionOperator (.bool true) (.badExpression error)

end Verdict
