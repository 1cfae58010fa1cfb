import Verdict.Approval.Basic
/-!
What a list of approval rules means by itself: its entries are taken in their order, the condition of each
is tried on the record as the entries before it left it, and an entry that holds writes its effect.
-/

namespace Verdict

open Expression (parse)
open Time (Instant)

def ApprovalRule.write? (entry : ApprovalRule) (record : Record) (now : Instant) : Option Record :=
  if entry.action = "autoApprove" then
    some
      (((record.insert "status" (.string (entry.setStatus.getD "Approved"))).insert "approvalType"
        (.string "Auto")).insert "approvedAt" (.string now.stamp))
  else if entry.action = "setUrgency" then
    some
      ((record.insert "urgency" (.string (entry.urgency.getD "High"))).insert "urgencySetAt" (.string now.stamp))
  else if entry.action = "requireApproval" then
    some
      (((record.insert "status" (.string "Pending Approval")).insert "approvalRequired" (.bool true)).insert
        "approvalLevel" (entry.approvalLevel.getD .null))
  else none

def ApprovalRule.interpret? (entry : ApprovalRule) (record : Record) (now : Instant) : Option Record :=
  match parse entry.condition with
  | .ok condition => if condition.holds record now then entry.write? record now else none
  | .error _ => none

/-- The record after entries in their order, and how many of them held. -/
def ApprovalRule.interpretAll (now : Instant) : (entries : List ApprovalRule) → (record : Record) →
    Record × Nat
  | [], record => (record, 0)
  | entry :: rest, record =>
    match entry.interpret? record now with
    | none => interpretAll now rest record
    | some changed =>
      let (final, held) := interpretAll now rest changed
      (final, held + 1)

end Verdict
