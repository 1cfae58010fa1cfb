import Verdict.Evaluation.Combination
import Verdict.Evaluation.Condition
import Verdict.Evaluation.Effect
import Verdict.Evaluation.Options
import Verdict.Store.Snapshot
/-!
The evaluation of a record. Rules are tried in their order, each on the record that the ones before it
left; a rule that passes has its effect on the record, and evaluation may stop at the first rule that
fails. The summary tells what every tried rule came to.
-/

namespace Verdict

open Time (Instant)

inductive Status where
  | passed
  | failed
deriving DecidableEq, Repr

namespace Status

def name : Status → String
  | passed => "PASSED"
  | failed => "FAILED"

def all : List Status := [passed, failed]

def of (verdict : Bool) : Status :=
  if verdict then passed else failed

def decode : Decoder Status :=
  Decoder.variant (all.map (fun status => (status.name, status))) none

end Status

/-- What a rule came to: its verdict, and the results of its conditions if they are kept. -/
structure RuleResult where
  rule : Rule
  passed : Bool
  conditions : Option (List ConditionResult)
  timestamp : Instant
deriving Repr

namespace RuleResult

def message (result : RuleResult) : String :=
  if result.passed then "Rule passed successfully" else "Rule validation failed"

/-- The actions of a rule are shown only if it passed. -/
def actions (result : RuleResult) : List Action :=
  if result.passed then result.rule.actions else []

def toJson (result : RuleResult) : Json :=
  .object
    ([("actions", .array (result.actions.map Action.toJson))] ++
      optionalField "conditionResults"
        (result.conditions.map (fun conditions => .array (conditions.map ConditionResult.toJson))) ++
      [("message", .string result.message), ("passed", .bool result.passed),
        ("priority", .ofInt result.rule.priority.toInt), ("ruleId", .string result.rule.id),
        ("ruleName", .string result.rule.name), ("ruleType", .string result.rule.kind.name),
        ("timestamp", .string result.timestamp.text)])

def content (result : RuleResult) : Content :=
  .fields
    ([(some "ruleId", .text result.rule.id), (some "ruleName", .text result.rule.name),
        (some "ruleType", .text result.rule.kind.name),
        (some "priority", .value (.ofInt result.rule.priority.toInt)), (some "passed", .value (.bool result.passed))] ++
      Content.optional "conditionResults"
        (result.conditions.map (fun conditions => .sequence (conditions.map ConditionResult.content))) ++
      [(some "actions", .sequence (result.actions.map Action.content)), (some "message", .text result.message),
        (some "timestamp", .text result.timestamp.text)])

def headline (result : RuleResult) : String :=
  "Fix rule violation: " ++ result.rule.name ++ " (" ++ result.rule.id ++ ")"

def conditionLine (condition : ConditionResult) : String :=
  "  - Field '" ++ condition.subject ++ "' should " ++ condition.operator ++ " '" ++
    condition.expected.displayText ++ "' but got '" ++
    condition.actual.elim "undefined" Json.displayText ++ "'"

/-- What to mend after a rule: nothing if it passed, and otherwise the rule and its failed conditions. -/
def recommendations (result : RuleResult) : List String :=
  if result.passed then []
  else
    result.headline ::
      ((result.conditions.getD []).filter (fun condition => !condition.passed)).map conditionLine

end RuleResult

structure Summary where
  results : List RuleResult
  timestamp : Instant
  processed : Record
deriving Repr

namespace Summary

def totalRules (summary : Summary) : Nat := summary.results.length

def passedRules (summary : Summary) : Nat := summary.results.countP RuleResult.passed

def failedRules (summary : Summary) : Nat := summary.totalRules - summary.passedRules

/-- A record passes when no tried rule failed. -/
def status (summary : Summary) : Status := .of (summary.failedRules == 0)

def allPassed : String := "All rules passed successfully. Procurement data is valid."

def recommendations (summary : Summary) : List String :=
  match summary.results.flatMap RuleResult.recommendations with
  | [] => [allPassed]
  | lines => lines

def fields (summary : Summary) : Fields :=
  [("evaluationTimestamp", .string summary.timestamp.text), ("failedRules", .ofNat summary.failedRules),
    ("overallStatus", .string summary.status.name), ("passedRules", .ofNat summary.passedRules),
    ("processedData", .object summary.processed),
    ("recommendations", .array (summary.recommendations.map .string)),
    ("results", .array (summary.results.map RuleResult.toJson)), ("totalRules", .ofNat summary.totalRules)]

def toJson (summary : Summary) : Json := .object summary.fields

def content (summary : Summary) : Content :=
  .fields
    [(some "totalRules", .count summary.totalRules), (some "passedRules", .count summary.passedRules),
      (some "failedRules", .count summary.failedRules), (some "overallStatus", .text summary.status.name),
      (some "results", .sequence (summary.results.map RuleResult.content)),
      (some "recommendations", .sequence (summary.recommendations.map .text)),
      (some "evaluationTimestamp", .text summary.timestamp.text),
      (some "processedData", .value (.object summary.processed))]

end Summary

def Condition.evaluateAll (record : Record) (strict : Bool) (now : Instant) :
    (conditions : List Condition) → (programs : List (Option Expr)) → List ConditionResult
  | [], _ => []
  | condition :: rest, programs =>
    condition.evaluate record programs.head?.join strict now ::
      evaluateAll record strict now rest programs.tail

structure Trial where
  results : List RuleResult
  record : Record
  notifications : List Notification
deriving Repr

namespace CompiledRule

def conditionResults (compiled : CompiledRule) (record : Record) (strict : Bool) (now : Instant) :
    List ConditionResult :=
  Condition.evaluateAll record strict now compiled.rule.conditions compiled.programs

def verdict (compiled : CompiledRule) (results : List ConditionResult) : Bool :=
  Connective.combine (compiled.rule.conditions.map Condition.connective)
    (results.map ConditionResult.passed)

def attempt (compiled : CompiledRule) (record : Record) (options : Options) (now : Instant) : Trial :=
  let conditions := compiled.conditionResults record options.strict now
  let passed := compiled.verdict conditions
  let result : RuleResult :=
    ⟨compiled.rule, passed, if options.keepsConditions then some conditions else none, now⟩
  if passed then
    let effect := compiled.rule.effect record now
    ⟨[result], effect.record, effect.notifications⟩
  else ⟨[result], record, []⟩

def attemptAll (options : Options) (now : Instant) : (rules : List CompiledRule) → (record : Record) → Trial
  | [], record => ⟨[], record, []⟩
  | compiled :: rest, record =>
    let trial := compiled.attempt record options now
    if options.stopsAtFailure && !trial.results.all RuleResult.passed then trial
    else
      let later := attemptAll options now rest trial.record
      ⟨trial.results ++ later.results, later.record, trial.notifications ++ later.notifications⟩

end CompiledRule

structure Evaluation where
  summary : Summary
  notifications : List Notification
deriving Repr

/-- Evaluates a record by the active rules in their order. Without active rules there is no verdict. -/
def evaluate (rules : List CompiledRule) (record : Record) (options : Options) (now : Instant) :
    Except RuleError Evaluation :=
  if rules.isEmpty then .error .noActiveRules
  else
    let trial := CompiledRule.attemptAll options now rules record
    .ok ⟨⟨trial.results, now, trial.record⟩, trial.notifications⟩

end Verdict
