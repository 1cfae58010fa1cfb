import Verdict.Json.Basic
import Verdict.Time.Instant
/-!
Rules: conditions on a record, joined by connectives, and the actions that are carried out when they hold.
A rule set is a version, a description of the set and its rules; a patch names the parts of a rule that
change.
-/

namespace Verdict

inductive Operator where
  | equals
  | notEquals
  | greaterThan
  | lessThan
  | greaterEqual
  | lessEqual
  | contains
  | notContains
  | isIn
  | notIn
  | exists
  | notExists
deriving DecidableEq, Repr

namespace Operator

def name : Operator → String
  | equals => "equals"
  | notEquals => "not_equals"
  | greaterThan => "greater_than"
  | lessThan => "less_than"
  | greaterEqual => "greater_equal"
  | lessEqual => "less_equal"
  | contains => "contains"
  | notContains => "not_contains"
  | isIn => "in"
  | notIn => "not_in"
  | «exists» => "exists"
  | notExists => "not_exists"

def all : List Operator :=
  [equals, notEquals, greaterThan, lessThan, greaterEqual, lessEqual, contains, notContains, isIn, notIn,
    «exists», notExists]

def isNumeric : Operator → Bool
  | greaterThan | lessThan | greaterEqual | lessEqual => true
  | _ => false

def needsNoValue : Operator → Bool
  | «exists» | notExists => true
  | _ => false

end Operator

inductive Connective where
  | and
  | or
deriving DecidableEq, Repr

namespace Connective

def name : Connective → String
  | and => "AND"
  | or => "OR"

def all : List Connective := [and, or]

end Connective

inductive ConditionTest where
  | expression (source : String)
  | field (path : String) (operator : Operator) (expected : Json)
deriving Repr

/-- A condition and the connective between it and the next one. -/
structure Condition where
  test : ConditionTest
  connective : Connective
deriving Repr

def Condition.source? (condition : Condition) : Option String :=
  match condition.test with
  | .expression source => some source
  | .field _ _ _ => none

/-- What an action does. Names that no action has are read as `unknown`, and nothing is done for them. -/
inductive ActionKind where
  | approve
  | reject
  | flag
  | calculate
  | notify
  | modify
  | unknown
deriving DecidableEq, Repr

namespace ActionKind

def name : ActionKind → String
  | approve => "approve"
  | reject => "reject"
  | flag => "flag"
  | calculate => "calculate"
  | notify => "notify"
  | modify => "modify"
  | unknown => "unknown"

def known : List ActionKind := [approve, reject, flag, calculate, notify, modify]

end ActionKind

structure Action where
  kind : ActionKind
  parameters : Fields
deriving Repr

def Action.text? (action : Action) (key : String) : Option String :=
  (action.parameters.get? key).bind Json.string?

inductive RuleKind where
  | validation
  | approval
  | calculation
  | notification
deriving DecidableEq, Repr

namespace RuleKind

def name : RuleKind → String
  | validation => "validation"
  | approval => "approval"
  | calculation => "calculation"
  | notification => "notification"

def all : List RuleKind := [validation, approval, calculation, notification]

end RuleKind

/-- A rule. Rules of smaller priority are evaluated first, inactive ones not at all. -/
structure Rule where
  id : String
  name : String
  description : Option String
  kind : RuleKind
  priority : Int32
  active : Bool
  conditions : List Condition
  actions : List Action
  createdAt : Time.Instant
  updatedAt : Time.Instant
deriving Repr

def Rule.defaultPriority : Int32 := 5

structure Metadata where
  name : String
  description : Option String
  createdBy : Option String
  createdDate : Option String
deriving DecidableEq, Repr

structure RuleSet where
  version : String
  metadata : Metadata
  rules : List Rule
deriving Repr

structure RulePatch where
  name : Option String
  description : Option String
  kind : Option RuleKind
  priority : Option Int32
  active : Option Bool
  conditions : Option (List Condition)
  actions : Option (List Action)
deriving Repr

def RulePatch.isEmpty (patch : RulePatch) : Bool :=
  patch.name.isNone && patch.description.isNone && patch.kind.isNone && patch.priority.isNone &&
    patch.active.isNone && patch.conditions.isNone && patch.actions.isNone

/-- A rule after a patch: the named parts are replaced, and the time of the change is noted. -/
def Rule.patched (rule : Rule) (patch : RulePatch) (now : Time.Instant) : Rule :=
  { rule with
    name := patch.name.getD rule.name
    description := patch.description.or rule.description
    kind := patch.kind.getD rule.kind
    priority := patch.priority.getD rule.priority
    active := patch.active.getD rule.active
    conditions := patch.conditions.getD rule.conditions
    actions := patch.actions.getD rule.actions
    updatedAt := now }

end Verdict
