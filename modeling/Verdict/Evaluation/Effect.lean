import Verdict.Evaluation.Calculation
/-!
What the actions of a rule do to a record. Actions are carried out in their order, each on the record that
the ones before it left; an action that cannot be carried out leaves it alone and does not count. A
notification changes no record: it is handed on with the name that the record has at that moment.
-/

namespace Verdict

open Time (Instant)

structure Notification where
  ruleId : String
  ruleName : String
  recordName : Option String
  parameters : Fields
  createdAt : Instant
deriving Repr

def Notification.toJson (notification : Notification) : Json :=
  .object
    [("createdAt", .string notification.createdAt.text),
      ("parameters", .object notification.parameters),
      ("recordId", .ofOption .string notification.recordName), ("ruleId", .string notification.ruleId),
      ("ruleName", .string notification.ruleName)]

namespace Action

def approve (action : Action) (record : Record) (now : Instant) : Record :=
  ((record.insert "status" (.string ((action.text? "setStatus").getD "Approved"))).insert
    "approvalType" (.string "Auto")).insert "approvedAt" (.string now.stamp)

def reject (action : Action) (record : Record) (now : Instant) : Record :=
  (record.insert "status" (.string ((action.text? "setStatus").getD "Rejected"))).insert
    "rejectedAt" (.string now.stamp)

def flag (action : Action) (record : Record) (now : Instant) : Record :=
  (record.insert "urgency" (.string ((action.text? "urgency").getD "High"))).insert
    "urgencySetAt" (.string now.stamp)

def modify (action : Action) (record : Record) : Record :=
  ((record.insert "status" (.string "Pending Approval")).insert "approvalRequired" (.bool true)).insert
    "approvalLevel" ((action.parameters.get? "approvalLevel").getD .null)

/-- The record after an action, or nothing if the action has no effect. -/
def perform? (action : Action) (record : Record) (now : Instant) : Option Record :=
  match action.kind with
  | .approve => some (action.approve record now)
  | .reject => some (action.reject record now)
  | .flag => some (action.flag record now)
  | .calculate => action.calculate? record now
  | .notify => some record
  | .modify => some (action.modify record)
  | .unknown => none

def notifications (action : Action) (rule : Rule) (record : Record) (now : Instant) : List Notification :=
  match action.kind with
  | .notify => [⟨rule.id, rule.name, Record.name? record, action.parameters, now⟩]
  | _ => []

end Action

/-- What actions came to: the record, how many had an effect, and the notifications. -/
structure Effect where
  record : Record
  applied : Nat
  notifications : List Notification
deriving Repr

def Rule.perform (rule : Rule) (now : Instant) : (actions : List Action) → (record : Record) → Effect
  | [], record => ⟨record, 0, []⟩
  | action :: rest, record =>
    match action.perform? record now with
    | none => rule.perform now rest record
    | some changed =>
      let later := rule.perform now rest changed
      ⟨later.record, later.applied + 1, action.notifications rule record now ++ later.notifications⟩

def Rule.effect (rule : Rule) (record : Record) (now : Instant) : Effect :=
  rule.perform now rule.actions record

end Verdict
