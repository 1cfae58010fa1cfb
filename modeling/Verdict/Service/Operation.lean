import Verdict.Service.Basic
/-!
The life of a service: operations one after the other, each at its time. Questions change nothing; of the
other operations each changes what it is for.
-/

namespace Verdict

open Time (Instant)

inductive Service.Operation where
  | loadRules (payload : Json)
  | getRules
  | getRule (id : String)
  | updateRule (id : String) (payload : Json)
  | deleteRule (id : String)
  | validate (record : Record) (options : Options)
  | validateBatch (records : List Record) (options : Options) (clock : Nat → Instant)
  | history (page limit : Nat) (status : Option String)
  | ruleStatistics
  | validationStatistics
  | loadApprovalRules (payload : Json)
  | process (request : Record)

namespace Service

/-- The error that an operation ends with, if any, and the service after it. -/
def perform (service : Service) (operation : Operation) (now : Instant) : Option RuleError × Service :=
  match operation with
  | .loadRules payload => outcome (service.loadRules payload now)
  | .getRules => (failure service.getRules, service)
  | .getRule id => (failure (service.getRule id), service)
  | .updateRule id payload => outcome (service.updateRule id payload now)
  | .deleteRule id => outcome (service.deleteRule id now)
  | .validate record options => outcome (service.validate record options now)
  | .validateBatch records options clock => outcome (service.validateBatch records options clock now)
  | .history _ _ _ => (none, service)
  | .ruleStatistics => (none, service)
  | .validationStatistics => (none, service)
  | .loadApprovalRules payload => outcome (service.loadApprovalRules payload now)
  | .process request => (failure (service.process request now), service)
where
  /-- The error of an answer. -/
  failure {α : Type} : Except RuleError α → Option RuleError
    | .ok _ => none
    | .error error => some error
  /-- The error of an answer beside the service after it. -/
  outcome {α : Type} (answer : Answered α) : Option RuleError × Service :=
    (failure answer.1, answer.2)

def afterAll : (service : Service) → (operations : List (Operation × Instant)) → Service
  | service, [] => service
  | service, (operation, now) :: rest => (service.perform operation now).2.afterAll rest

def Reachable (service : Service) : Prop :=
  ∃ (capacity : Nat) (ids : Nat → String) (operations : List (Operation × Instant)),
    (Service.new capacity ids).afterAll operations = service

end Service

end Verdict
