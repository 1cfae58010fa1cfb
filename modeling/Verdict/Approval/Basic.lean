import Verdict.Evaluation.Summary
/-!
Approval rules for purchase requests: pairs of a condition text and an approval action. A list of them is
turned into a rule set of its own, in which every entry is a rule with one expression and one action.
-/

namespace Verdict

open Time (Instant)

structure ApprovalRule where
  id : Option String
  name : Option String
  condition : String
  action : String
  setStatus : Option String
  urgency : Option String
  approvalLevel : Option Json
deriving Repr

structure ApprovalRules where
  entries : List ApprovalRule
deriving Repr

def ApprovalRule.form : Form ApprovalRule :=
  ApprovalRule.mk <$> .nullable "id" Decoder.text <*> .nullable "name" Decoder.text <*>
    .required "condition" Decoder.text <*> .required "action" Decoder.text <*>
    .nullable "setStatus" Decoder.text <*> .nullable "urgency" Decoder.text <*>
    .nullable "approvalLevel" Decoder.anything

def ApprovalRules.form : Form ApprovalRules :=
  ApprovalRules.mk <$>
    .required "approvalRules" (Decoder.list (ApprovalRule.form.decode "struct ApprovalRule" true))

def ApprovalRules.accept (payload : Json) : Except RuleError ApprovalRules :=
  Document.approvalRules.read (ApprovalRules.form.decode "struct ApprovalRuleSet" true) payload

inductive ApprovalAction where
  | approve (status : Option String)
  | setUrgency (urgency : Option String)
  | requireApproval (level : Option Json)
deriving Repr

namespace ApprovalAction

def of? (entry : ApprovalRule) : Option ApprovalAction :=
  match entry.action with
  | "autoApprove" => some (.approve entry.setStatus)
  | "setUrgency" => some (.setUrgency entry.urgency)
  | "requireApproval" => some (.requireApproval entry.approvalLevel)
  | _ => none

def toAction : ApprovalAction → Action
  | approve status => ⟨.approve, (status.map (fun text => ("setStatus", Json.string text))).toList⟩
  | setUrgency urgency => ⟨.flag, (urgency.map (fun text => ("urgency", Json.string text))).toList⟩
  | requireApproval level => ⟨.modify, (level.map (fun value => ("approvalLevel", value))).toList⟩

end ApprovalAction

namespace ApprovalRule

/-- The name of an entry in its rule set: its own, or one made from its place. -/
def idAt (entry : ApprovalRule) (place : Nat) : String :=
  entry.id.getD ("approval_" ++ toString (place + 1))

/-- An entry as a rule. Without a name of its own it is called by its condition. -/
def toRule (entry : ApprovalRule) (action : ApprovalAction) (place : Nat) (now : Instant) : Rule where
  id := entry.idAt place
  name := entry.name.getD entry.condition
  description := none
  kind := .approval
  priority := Rule.defaultPriority
  active := true
  conditions := [⟨.expression entry.condition, .and⟩]
  actions := [action.toAction]
  createdAt := now
  updatedAt := now

def toRules (now : Instant) (place : Nat) : List ApprovalRule → List Rule
  | [] => []
  | entry :: rest =>
    ((ApprovalAction.of? entry).map (fun action => entry.toRule action place now)).toList ++
      toRules now (place + 1) rest

def violations (place : Nat) : List ApprovalRule → List FieldViolation
  | [] => []
  | entry :: rest =>
    FieldViolation.report (ApprovalAction.of? entry).isNone ("approvalRules." ++ toString place ++ ".action")
        (.unknownApproval entry.action) ++
      violations (place + 1) rest

end ApprovalRule

def ApprovalRules.toRuleSet (rules : ApprovalRules) (now : Instant) : Except RuleError RuleSet :=
  match ApprovalRule.violations 0 rules.entries with
  | [] =>
    .ok ⟨"legacy", ⟨"Purchase request approval rules", none, none, none⟩, rules.entries |> ApprovalRule.toRules now 0⟩
  | violations => .error (.schema (.invalid .approvalRules violations))

/-- A purchase request after the rules in force: every rule that holds has its effect, and the time and the
number of those rules are noted. -/
def processPurchaseRequest (rules : List CompiledRule) (request : Record) (now : Instant) :
    Except RuleError (Record × List Notification) :=
  let noted (record : Record) (applied : Nat) : Record :=
    (record.insert "processedAt" (.string now.stamp)).insert "rulesApplied" (.ofNat applied)
  if rules.isEmpty then .ok (noted request 0, [])
  else
    (evaluate rules request .batch now).map (fun evaluation =>
      (noted evaluation.summary.processed evaluation.summary.passedRules, evaluation.notifications))

end Verdict
