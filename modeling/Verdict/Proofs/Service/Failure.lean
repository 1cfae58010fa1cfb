import Verdict.Proofs.Outcome
import Verdict.Proofs.Service.Serialization
import Verdict.Service.Operation
/-!
How operations of a service fail. Documents are refused, rules are missing, expressions do not parse or nothing
is in force; an error that no caller could be blamed for never leaves an operation.
-/

namespace Verdict

open Expression (parse)
open Time (Instant)

/-- An error that is a fault of the service itself. -/
def RuleError.isInternal : RuleError → Bool
  | evaluation _ => true
  | json _ => true
  | _ => false

/-- An outcome that is no fault of the service itself. -/
abbrev External {α : Type} (outcome : Except RuleError α) : Prop :=
  Outcome.FailsOnly (fun error => error.isInternal = false) outcome

theorem Document.external_read {α : Type} (document : Document) (decode : Decoder α) (payload : Json) :
    External (document.read decode payload) := by
  unfold Document.read
  cases decode payload with
  | error cause => exact .error rfl
  | ok value => exact .ok value

theorem Shape.external_require (document : Document) (faults : List FieldViolation) :
    External (Shape.require document faults) := by
  unfold Shape.require
  split
  · exact .ok ()
  · exact .error rfl

namespace Validation

theorem external_require (document : Document) (violations : List FieldViolation) :
    External (require document violations) := by
  unfold require
  split
  · exact .ok ()
  · exact .error rfl

theorem external_requireParses (ruleId : String) (conditions : List Condition) :
    External (requireParses ruleId conditions) := by
  induction conditions with
  | nil => exact .ok ()
  | cons condition rest ih =>
    unfold requireParses
    split
    · exact ih
    · split
      · exact ih
      · exact .error rfl

theorem external_requireAllParse (rules : List Rule) : External (requireAllParse rules) := by
  induction rules with
  | nil => exact .ok ()
  | cons rule rest ih => exact (external_requireParses rule.id rule.conditions).bind (fun _ => ih)

end Validation

theorem RuleSet.external_validate (ruleSet : RuleSet) : External ruleSet.validate :=
  (Validation.external_require .ruleSet _).bind (fun _ => Validation.external_requireAllParse ruleSet.rules)

theorem Rule.external_validate (rule : Rule) : External rule.validate :=
  (Validation.external_require .rule _).bind
    (fun _ => Validation.external_requireParses rule.id rule.conditions)

theorem RuleSet.external_accept (payload : Json) (now : Instant) : External (RuleSet.accept payload now) := by
  refine (Shape.external_require .ruleSet _).bind (fun _ => (Document.external_read .ruleSet _ payload).bind ?_)
  exact fun ruleSet => ruleSet.external_validate.bind (fun _ => .ok ruleSet)

theorem RulePatch.external_accept (payload : Json) : External (RulePatch.accept payload) := by
  unfold RulePatch.accept
  split
  · exact .error rfl
  · refine (Shape.external_require .patch _).bind (fun _ => (Document.external_read .patch _ _).bind ?_)
    intro patch
    refine (Validation.external_require .patch _).bind (fun _ => ?_)
    split
    · exact .error rfl
    · exact .ok patch
  · exact .error rfl

theorem Condition.external_compileAll (conditions : List Condition) : External (compileAll conditions) := by
  induction conditions with
  | nil => exact .ok []
  | cons condition rest ih =>
    unfold compileAll
    split
    · exact ih.map _
    · split
      · exact .error rfl
      · exact ih.map _

theorem CompiledRule.external_compile (rule : Rule) : External (compile rule) :=
  (Condition.external_compileAll rule.conditions).map _

theorem CompiledRule.external_compileAll (rules : List Rule) : External (compileAll rules) := by
  induction rules with
  | nil => exact .ok []
  | cons rule rest ih => exact (external_compile rule).bind (fun _ => ih.bind (fun _ => .ok _))

namespace Store

theorem external_save (store : Store) (ruleSet : RuleSet) (now : Instant) :
    External (store.save ruleSet now) := by
  refine Outcome.FailsOnly.map (ruleSet.external_validate.bind (fun _ => ?_)) _
  exact (CompiledRule.external_compileAll ruleSet.rules).bind (fun _ => .ok _)

theorem external_update (store : Store) (id : String) (patch : RulePatch) (now : Instant) :
    External (store.update id patch now) := by
  unfold update
  split
  · exact .error rfl
  · apply Outcome.FailsOnly.map
    unfold Snapshot.update
    split
    · exact .error rfl
    · refine (Rule.external_validate _).bind (fun _ => ?_)
      exact (CompiledRule.external_compile _).bind (fun _ => .ok _)

theorem external_delete (store : Store) (id : String) (now : Instant) : External (store.delete id now) := by
  unfold delete
  split
  · exact .error rfl
  · apply Outcome.FailsOnly.map
    unfold Snapshot.delete
    split
    · exact .error rfl
    · exact .ok _

theorem external_get (store : Store) (id : String) : External (store.get id) := by
  unfold get
  split
  · exact .ok _
  · exact .error rfl

end Store

theorem external_evaluate (rules : List CompiledRule) (record : Record) (options : Options) (now : Instant) :
    External (evaluate rules record options now) := by
  unfold evaluate
  split
  · exact .error rfl
  · exact .ok _

/-- A batch fails as its records do, and no record fails once there are rules. -/
theorem external_evaluateBatch (rules : List CompiledRule) (records : List Record) (options : Options)
    (clock : Nat → Instant) (finishedAt : Instant) :
    External (evaluateBatch rules records options clock finishedAt) := by
  have entries (index : Nat) : External (evaluateFrom rules options clock index records) := by
    induction records generalizing index with
    | nil => exact .ok []
    | cons record rest ih =>
      exact (external_evaluate rules record options _).bind (fun _ => (ih (index + 1)).bind (fun _ => .ok _))
  unfold evaluateBatch
  split
  · exact .error rfl
  · exact (entries 0).map _

theorem ApprovalRules.external_toRuleSet (list : ApprovalRules) (now : Instant) :
    External (list.toRuleSet now) := by
  unfold toRuleSet
  split
  · exact .ok _
  · exact .error rfl

theorem external_processPurchaseRequest (rules : List CompiledRule) (request : Record) (now : Instant) :
    External (processPurchaseRequest rules request now) := by
  unfold processPurchaseRequest
  split
  · exact .ok _
  · exact (external_evaluate rules request .batch now).map _

namespace Service

variable (service : Service) (now : Instant)

theorem external_loadRules (payload : Json) : External (service.loadRules payload now).1 := by
  have outside := (RuleSet.external_accept payload now).bind
    (fun ruleSet => service.rules.external_save ruleSet now)
  unfold loadRules
  split
  next => exact .ok _
  next error failed => exact .error (outside error failed)

theorem external_getRules : External service.getRules := by
  unfold getRules
  cases service.rules.snapshot with
  | none => exact .error rfl
  | some snapshot => exact .ok snapshot

theorem external_changed {outcome : Except RuleError (Rule × Store)} (outside : External outcome) :
    External (service.changed outcome).1 := by
  cases outcome with
  | error error => exact .error (outside error rfl)
  | ok result => exact .ok result.1

theorem external_updateRule (id : String) (payload : Json) : External (service.updateRule id payload now).1 :=
  service.external_changed
    ((RulePatch.external_accept payload).bind (fun patch => service.rules.external_update id patch now))

theorem external_deleteRule (id : String) : External (service.deleteRule id now).1 :=
  service.external_changed (service.rules.external_delete id now)

theorem external_validate (record : Record) (options : Options) :
    External (service.validate record options now).1 := by
  have outside := external_evaluate service.rules.activeRules record options now
  cases outcome : evaluate service.rules.activeRules record options now with
  | error error =>
    rw [service.validate_of_error outcome]
    exact .error (outside error outcome)
  | ok evaluation =>
    rw [service.validate_of_ok outcome]
    exact .ok _

theorem external_validateBatch (records : List Record) (options : Options) (clock : Nat → Instant) :
    External (service.validateBatch records options clock now).1 := by
  have outside := external_evaluateBatch service.rules.activeRules records options clock now
  cases outcome : evaluateBatch service.rules.activeRules records options clock now with
  | error error =>
    rw [service.validateBatch_of_error outcome]
    exact .error (outside error outcome)
  | ok evaluated =>
    rw [service.validateBatch_of_ok outcome]
    exact .ok _

theorem external_loadApprovalRules (payload : Json) : External (service.loadApprovalRules payload now).1 := by
  have accepted : External (ApprovalRules.accept payload) := Document.external_read .approvalRules _ payload
  have outside := (accepted.bind (fun list => list.external_toRuleSet now)).bind
    (fun ruleSet => service.approvalRules.external_save ruleSet now)
  unfold loadApprovalRules
  split
  next => exact .ok _
  next error failed => exact .error (outside error failed)

theorem external_process (request : Record) : External (service.process request now) :=
  (external_processPurchaseRequest service.approvalRules.activeRules request now).map Prod.fst

variable {service now} {operation : Operation} {error : RuleError}

theorem isInternal_of_failure {α : Type} {outcome : Except RuleError α} (outside : External outcome)
    (failed : perform.failure outcome = some error) : error.isInternal = false := by
  cases outcome with
  | ok value => cases failed
  | error problem =>
    cases failed
    exact outside error rfl

/-- No operation fails by a fault of the service. -/
theorem isInternal_of_perform (failed : (service.perform operation now).1 = some error) :
    error.isInternal = false := by
  cases operation with
  | loadRules payload => exact isInternal_of_failure (service.external_loadRules now payload) failed
  | getRules => exact isInternal_of_failure service.external_getRules failed
  | getRule id => exact isInternal_of_failure (service.rules.external_get id) failed
  | updateRule id payload => exact isInternal_of_failure (service.external_updateRule now id payload) failed
  | deleteRule id => exact isInternal_of_failure (service.external_deleteRule now id) failed
  | validate record options =>
    exact isInternal_of_failure (service.external_validate now record options) failed
  | validateBatch records options clock =>
    exact isInternal_of_failure (service.external_validateBatch now records options clock) failed
  | loadApprovalRules payload =>
    exact isInternal_of_failure (service.external_loadApprovalRules now payload) failed
  | process request => exact isInternal_of_failure (service.external_process now request) failed
  | history page limit status => cases failed
  | ruleStatistics => cases failed
  | validationStatistics => cases failed

end Service

end Verdict
