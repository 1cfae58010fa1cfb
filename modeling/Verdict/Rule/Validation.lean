import Verdict.Error
import Verdict.Rule.Basic
/-!
The constraints on rules. Broken constraints are reported together, ordered by path; only when there is
none are the expressions parsed, and the first that does not parse is the error.
-/

namespace Verdict

open Expression (parse)
open FieldViolation (report)

namespace Validation

def isPriority (priority : Int32) : Bool :=
  decide (1 ≤ priority) && decide (priority ≤ 10)

def actionViolations (path : String) (place : Nat) : List Action → List FieldViolation
  | [] => []
  | action :: rest =>
    report (action.kind == .unknown) (path ++ "." ++ toString place ++ ".type") .unknownAction ++
      actionViolations path (place + 1) rest

/-- The broken constraints on the fields of one rule; `above` stands before the names of the fields. -/
def fieldViolations (above : String) (rule : Rule) : List FieldViolation :=
  report (rule.id.isEmpty) (above ++ "id") .emptyRuleId ++
    report (rule.name.isEmpty) (above ++ "name") .emptyRuleName ++
    report (!isPriority rule.priority) (above ++ "priority") .priorityOutOfRange ++
    report (rule.conditions.isEmpty) (above ++ "conditions") .noConditions ++
    report (rule.actions.isEmpty) (above ++ "actions") .noActions

def rulePath (place : Nat) : String := "rules." ++ toString place ++ "."

def rulesFieldViolations (place : Nat) : List Rule → List FieldViolation
  | [] => []
  | rule :: rest => fieldViolations (rulePath place) rule ++ rulesFieldViolations (place + 1) rest

/-- Names that an earlier rule has, and actions of unknown kind, from a place in the list on. -/
def rulesUseViolations (earlier : List String) (place : Nat) : List Rule → List FieldViolation
  | [] => []
  | rule :: rest =>
    report (earlier.contains rule.id) (rulePath place ++ "id") (.duplicateId rule.id) ++
      actionViolations (rulePath place ++ "actions") 0 rule.actions ++
      rulesUseViolations (rule.id :: earlier) (place + 1) rest

/-- All broken constraints on a rule set, in no particular order. -/
def setViolations (ruleSet : RuleSet) : List FieldViolation :=
  report (ruleSet.version.isEmpty) "version" .emptyVersion ++
    report (ruleSet.metadata.name.isEmpty) "metadata.name" .emptySetName ++
    rulesFieldViolations 0 ruleSet.rules ++ rulesUseViolations [] 0 ruleSet.rules

def ruleViolations (rule : Rule) : List FieldViolation :=
  fieldViolations "" rule ++ actionViolations "actions" 0 rule.actions

def patchViolations (patch : RulePatch) : List FieldViolation :=
  report (patch.name.any (·.isEmpty)) "name" .emptyRuleName ++
    report (!patch.priority.all isPriority) "priority" .priorityOutOfRange ++
    report (patch.conditions.any (·.isEmpty)) "conditions" .noConditions ++
    report (patch.actions.any (·.isEmpty)) "actions" .noActions ++
    patch.actions.elim [] (actionViolations "actions" 0)

/-- Violations in the order of their paths; of one path, in the order in which they were found. -/
def inOrder (violations : List FieldViolation) : List FieldViolation :=
  violations.mergeSort (fun left right => decide (left.path ≤ right.path))

def require (document : Document) (violations : List FieldViolation) : Except RuleError Unit :=
  if violations.isEmpty then .ok () else .error (.schema (.invalid document (inOrder violations)))

/-- Refuses the first expression that does not parse. -/
def requireParses (ruleId : String) : List Condition → Except RuleError Unit
  | [] => .ok ()
  | condition :: rest =>
    match condition.source? with
    | none => requireParses ruleId rest
    | some source =>
      match parse source with
      | .ok _ => requireParses ruleId rest
      | .error error => .error (.badExpression error (some ⟨ruleId, source⟩))

def requireAllParse : List Rule → Except RuleError Unit
  | [] => .ok ()
  | rule :: rest => do
    requireParses rule.id rule.conditions
    requireAllParse rest

end Validation

def RuleSet.validate (ruleSet : RuleSet) : Except RuleError Unit := do
  Validation.require .ruleSet (Validation.setViolations ruleSet)
  Validation.requireAllParse ruleSet.rules

def Rule.validate (rule : Rule) : Except RuleError Unit := do
  Validation.require .rule (Validation.ruleViolations rule)
  Validation.requireParses rule.id rule.conditions

end Verdict
