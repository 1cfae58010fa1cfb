import Verdict.Rule.Shape
import Verdict.Rule.Validation
/-!
Taking in rule sets and patches: the conditions are looked at first, then the document is read, and last
its constraints are checked.
-/

namespace Verdict

open Time (Instant)

def Shape.require (document : Document) (faults : List FieldViolation) : Except RuleError Unit :=
  if faults.isEmpty then .ok () else .error (.schema (.malformed document faults))

def Document.read (document : Document) (decode : Decoder α) (payload : Json) : Except RuleError α :=
  (decode payload).mapError (fun cause => .schema (.unreadable document cause))

def RuleSet.accept (payload : Json) (now : Instant) : Except RuleError RuleSet := do
  Shape.require .ruleSet (Shape.ruleSetFaults payload)
  let ruleSet ← Document.ruleSet.read (RuleSet.decode now) payload
  ruleSet.validate
  .ok ruleSet

/-- Takes in a patch, which has to be an object that changes something. -/
def RulePatch.accept : Json → Except RuleError RulePatch
  | .object [] => .error (.schema .emptyPatch)
  | .object fields => do
    Shape.require .patch ((Fields.get? fields "conditions").elim [] (Shape.conditionsFaults "conditions"))
    let patch ← Document.patch.read RulePatch.decode (.object fields)
    Validation.require .patch (Validation.patchViolations patch)
    if patch.isEmpty then .error (.schema .emptyPatch) else .ok patch
  | _ => .error (.schema .patchNotObject)

end Verdict
