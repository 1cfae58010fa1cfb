import Verdict.Proofs.Service.Serialization
import Verdict.Service.Operation
/-!
What an operation may change in a service. A service has three parts that its answers depend on, and each
operation is for one of them at most. An operation that fails leaves all three as they were, one that
succeeds changes the part that it is for, and so a run of operations that are for other parts leaves a part
as it was.
-/

namespace Verdict.Service

open Time (Instant)

/-- The parts of a service that its answers depend on; counters only tell of the past. -/
inductive Part where
  | rules
  | approvalRules
  | history
deriving DecidableEq, Repr

/-- Two services have the same content in a part. -/
def Part.Same : Part → Service → Service → Prop
  | rules, first, second => first.rules = second.rules
  | approvalRules, first, second => first.approvalRules = second.approvalRules
  | history, first, second => first.history = second.history

theorem Part.Same.refl (part : Part) (service : Service) : part.Same service service := by
  cases part <;> rfl

theorem Part.Same.trans {part : Part} {first second third : Service} (earlier : part.Same first second)
    (later : part.Same second third) : part.Same first third := by
  cases part with
  | rules => exact Eq.trans earlier later
  | approvalRules => exact Eq.trans earlier later
  | history => exact Eq.trans earlier later

/-- The part that an operation is for. Questions are for none, nor is the processing of purchase requests. -/
def Operation.part? : Operation → Option Part
  | .loadRules _ => some .rules
  | .updateRule _ _ => some .rules
  | .deleteRule _ => some .rules
  | .loadApprovalRules _ => some .approvalRules
  | .validate _ _ => some .history
  | .validateBatch _ _ _ => some .history
  | .getRules => none
  | .getRule _ => none
  | .history _ _ _ => none
  | .ruleStatistics => none
  | .validationStatistics => none
  | .process _ => none

/-- All that an operation can do to a service: it writes one part or none, and it may count. -/
inductive Writes (service : Service) : Option Part → Service → Prop where
  | nothing (counters : Counters) : Writes service none { service with counters := counters }
  | rules (rules : Store) (counters : Counters) :
    Writes service (some .rules) { service with rules := rules, counters := counters }
  | approvalRules (approvalRules : Store) :
    Writes service (some .approvalRules) { service with approvalRules := approvalRules }
  | history (history : History) (counters : Counters) :
    Writes service (some .history) { service with history := history, counters := counters }

theorem Writes.same {service after : Service} {written : Option Part} (writes : service.Writes written after)
    {part : Part} (other : written ≠ some part) :
    part.Same service after := by
  cases writes with
  | nothing counters => cases part <;> rfl
  | rules rules counters => cases part <;> first | rfl | exact absurd rfl other
  | approvalRules approvalRules => cases part <;> first | rfl | exact absurd rfl other
  | history history counters => cases part <;> first | rfl | exact absurd rfl other

/-- The part that an operation writes: none if it fails. -/
def Operation.written (operation : Operation) : (failure : Option RuleError) → Option Part
  | some _ => none
  | none => operation.part?

theorem writes_question (service : Service) {operation : Operation} (question : operation.part? = none)
    (failure : Option RuleError) : service.Writes (operation.written failure) service := by
  have nothing : operation.written failure = none := by
    cases failure with
    | none => exact question
    | some error => rfl
  rw [nothing]
  exact .nothing service.counters

theorem writes_perform (service : Service) (operation : Operation) (now : Instant) :
    service.Writes (operation.written (service.perform operation now).1)
      (service.perform operation now).2 := by
  -- Whatever can fail in an operation is one outcome, and nothing is written before it is known.
  cases operation with
  | loadRules payload =>
    rw [perform, loadRules]
    cases RuleSet.accept payload now >>= (service.rules.save · now) with
    | error error => exact .nothing _
    | ok loaded => exact .rules loaded.2 _
  | updateRule id payload =>
    rw [perform, updateRule]
    cases RulePatch.accept payload >>= (service.rules.update id · now) with
    | error error => exact .nothing service.counters
    | ok updated => exact .rules updated.2 service.counters
  | deleteRule id =>
    rw [perform, deleteRule]
    cases service.rules.delete id now with
    | error error => exact .nothing service.counters
    | ok deleted => exact .rules deleted.2 service.counters
  | validate record options =>
    rw [perform]
    cases outcome : evaluate service.rules.activeRules record options now with
    | error error =>
      rw [service.validate_of_error outcome]
      exact .nothing service.counters
    | ok evaluation =>
      rw [service.validate_of_ok outcome]
      exact .history _ _
  | validateBatch records options clock =>
    rw [perform]
    cases outcome : evaluateBatch service.rules.activeRules records options clock now with
    | error error =>
      rw [service.validateBatch_of_error outcome]
      exact .nothing service.counters
    | ok evaluated =>
      rw [service.validateBatch_of_ok outcome]
      exact .history _ _
  | loadApprovalRules payload =>
    rw [perform, loadApprovalRules]
    cases ApprovalRules.accept payload >>= (·.toRuleSet now) >>= (service.approvalRules.save · now) with
    | error error => exact .nothing service.counters
    | ok loaded => exact .approvalRules loaded.2
  | getRules => exact service.writes_question rfl _
  | getRule id => exact service.writes_question rfl _
  | history page limit status => exact service.writes_question rfl none
  | ruleStatistics => exact service.writes_question rfl none
  | validationStatistics => exact service.writes_question rfl none
  | process request => exact service.writes_question rfl _

/-- Operations that are for other parts leave a part as it was, whatever they come to. -/
theorem same_afterAll {part : Part} {operations : List (Operation × Instant)}
    (others : ∀ step ∈ operations, step.1.part? ≠ some part) (service : Service) :
    part.Same service (service.afterAll operations) := by
  induction operations generalizing service with
  | nil => exact .refl part service
  | cons step rest ih =>
    obtain ⟨operation, now⟩ := step
    obtain ⟨other, later⟩ := List.forall_mem_cons.1 others
    have first : part.Same service (service.perform operation now).2 := by
      refine (service.writes_perform operation now).same ?_
      cases (service.perform operation now).1 with
      | some error => simp [Operation.written]
      | none => exact other
    exact first.trans (ih later _)

/-- A history after one more entry. The new entry is the last one, and before it stand the latest of the old ones, as
many as the limit leaves room for. -/
structure Gains (before after : History) (entry : HistoryEntry) : Prop where
  capacity : after.capacity = before.capacity
  latest : after.entries <:+ before.entries ++ [entry]
  length : after.entries.length = min (before.entries.length + 1) before.capacity
  last : after.entries.getLast? = some entry

theorem gains_append (history : History) (entry : HistoryEntry) : Gains history (history.append entry) entry := by
  have limit := history.positive
  have kept : history.overflow < (history.entries ++ [entry]).length := by
    rw [History.overflow, List.length_append, List.length_singleton]
    omega
  constructor
  case capacity => rfl
  case latest => exact List.drop_suffix _ _
  case length =>
    rw [History.append, List.length_drop, List.length_append, List.length_singleton, History.overflow]
    omega
  case last =>
    rw [History.append, List.getLast?_drop, if_neg (Nat.not_le.2 kept), List.getLast?_concat]

/-- The entry for a validation that succeeded: it tells what the validation gave, and when. -/
inductive Tells (service : Service) (now : Instant) : Operation → HistoryEntry → Prop where
  | single {record : Record} {options : Options} {summary : Summary}
    (gave : (service.validate record options now).1 = .ok summary) :
    Tells service now (.validate record options)
      { serial := service.history.appended
        id := "VAL_" ++ service.history.ids service.history.appended
        mode := .single
        status := summary.status
        payload := summary.toJson
        createdAt := now }
  | batch {records : List Record} {options : Options} {clock : Nat → Instant} {outcome : BatchOutcome}
    (gave : (service.validateBatch records options clock now).1 = .ok outcome) :
    Tells service now (.validateBatch records options clock)
      { serial := service.history.appended
        id := "VAL_" ++ service.history.ids service.history.appended
        mode := .batch
        status := outcome.status
        payload := outcome.toJson
        createdAt := now }

theorem gains_perform {service : Service} {operation : Operation} {now : Instant}
    (succeeded : (service.perform operation now).1 = none) (validates : operation.part? = some .history) :
    ∃ entry, service.Tells now operation entry ∧
      Gains service.history (service.perform operation now).2.history entry := by
  cases operation with
  | validate record options =>
    rw [perform] at succeeded ⊢
    cases outcome : evaluate service.rules.activeRules record options now with
    | error error =>
      rw [service.validate_of_error outcome] at succeeded
      cases succeeded
    | ok evaluation =>
      have validated := service.validate_of_ok outcome
      refine ⟨_, .single (congrArg Prod.fst validated), ?_⟩
      rw [validated]
      exact gains_append service.history _
  | validateBatch records options clock =>
    rw [perform] at succeeded ⊢
    cases outcome : evaluateBatch service.rules.activeRules records options clock now with
    | error error =>
      rw [service.validateBatch_of_error outcome] at succeeded
      cases succeeded
    | ok evaluated =>
      have validated := service.validateBatch_of_ok outcome
      refine ⟨_, .batch (congrArg Prod.fst validated), ?_⟩
      rw [validated]
      exact gains_append service.history _
  | _ => cases validates

/-- An operation that fails changes no part of the service. One that succeeds changes the part that it is for
at most, and a validation changes the history by one more entry at its end, which tells what the validation gave. -/
theorem operation_changes_its_part_only (service : Service) (operation : Operation) (now : Instant) :
    (∀ error, (service.perform operation now).1 = some error →
      ∀ part : Part, part.Same service (service.perform operation now).2) ∧
    ((service.perform operation now).1 = none →
      (∀ part, operation.part? ≠ some part → part.Same service (service.perform operation now).2) ∧
      (operation.part? = some .history →
        ∃ entry, service.Tells now operation entry ∧
          Gains service.history (service.perform operation now).2.history entry)) := by
  have writes := service.writes_perform operation now
  refine ⟨fun error failed part => ?_, fun succeeded => ⟨fun part other => ?_, fun validates => ?_⟩⟩
  · rw [failed] at writes
    exact writes.same (by simp [Operation.written])
  · rw [succeeded] at writes
    exact writes.same other
  · exact gains_perform succeeded validates

/-- A service with one rule, which tests for an amount, and with room for one validation. -/
def amountService : Service :=
  { new 1 with
    rules := ⟨some ⟨"1", ⟨"amounts", none, none, none⟩, ⟨0, 0⟩,
      [⟨⟨"a", "a", none, .validation, 1, true, [⟨.field "amount" .exists .null, .and⟩], [⟨.flag, []⟩],
        ⟨0, 0⟩, ⟨0, 0⟩⟩, [none]⟩]⟩⟩ }

/-- The validation of a record that has no amount. -/
def amountValidation : Operation :=
  .validate [] ⟨true, false, true⟩

theorem amount_validation_isolated :
    (amountService.perform (.deleteRule "b") ⟨1, 0⟩).1 = some (.ruleNotFound "b") ∧
      (∀ part : Part, part.Same amountService (amountService.perform (.deleteRule "b") ⟨1, 0⟩).2) ∧
      (amountService.perform amountValidation ⟨1, 0⟩).1 = none ∧
      Part.rules.Same amountService (amountService.perform amountValidation ⟨1, 0⟩).2 ∧
      Part.approvalRules.Same amountService (amountService.perform amountValidation ⟨1, 0⟩).2 ∧
      ∃ entry, amountService.Tells ⟨1, 0⟩ amountValidation entry ∧
        Gains amountService.history (amountService.perform amountValidation ⟨1, 0⟩).2.history entry := by
  have absent : (amountService.perform (.deleteRule "b") ⟨1, 0⟩).1 = some (.ruleNotFound "b") := rfl
  have validated : (amountService.perform amountValidation ⟨1, 0⟩).1 = none := rfl
  have unchanged := (operation_changes_its_part_only amountService (.deleteRule "b") ⟨1, 0⟩).1 _ absent
  obtain ⟨others, appended⟩ :=
    (operation_changes_its_part_only amountService amountValidation ⟨1, 0⟩).2 validated
  exact ⟨absent, unchanged, validated, others .rules (by decide), others .approvalRules (by decide),
    appended rfl⟩

end Verdict.Service
