import Mathlib.Data.List.Forall2
import Verdict.Approval.Interpretation
import Verdict.Proofs.Evaluation.Trial
import Verdict.Proofs.Service.Isolation
import Verdict.Proofs.Store.Order
/-!
Approval rules mean what their list says. A list is put in force as rules of one priority with default names,
which are validated, sorted, compiled and tried by the rule engine; what comes out for a purchase request is
what the direct reading of the list gives, entry by entry.
-/

namespace Verdict

open Expression (parse)
open Time (Instant)

namespace ApprovalAction

variable (record : Record) (now : Instant)

/-- The action that an entry is turned into has the effect of the entry. -/
theorem perform?_toAction {entry : ApprovalRule} {action : ApprovalAction} (known : of? entry = some action) :
    action.toAction.perform? record now = entry.write? record now := by
  unfold of? at known
  split at known
  next named =>
    cases known
    rw [ApprovalRule.write?, named, if_pos rfl]
    cases entry.setStatus <;> rfl
  next named =>
    cases known
    rw [ApprovalRule.write?, named, if_neg (by decide), if_pos rfl]
    cases entry.urgency <;> rfl
  next named =>
    cases known
    rw [ApprovalRule.write?, named, if_neg (by decide), if_neg (by decide), if_pos rfl]
    cases entry.approvalLevel <;> rfl
  next => cases known

theorem perform?_toAction_isSome (action : ApprovalAction) : (action.toAction.perform? record now).isSome := by
  cases action <;> rfl

theorem notifications_toAction (action : ApprovalAction) (rule : Rule) :
    action.toAction.notifications rule record now = [] := by
  cases action <;> rfl

end ApprovalAction

namespace ApprovalRule

/-- A compiled rule that was made from an entry with a known action and a condition that parses. -/
inductive Compiled (entry : ApprovalRule) : CompiledRule → Prop where
  | rule {action : ApprovalAction} {program : Expr} (known : ApprovalAction.of? entry = some action)
    (parsed : parse entry.condition = .ok program) (place : Nat) (madeAt : Instant) :
    Compiled entry ⟨entry.toRule action place madeAt, [some program]⟩

theorem compiled_of_compile {entry : ApprovalRule} {action : ApprovalAction} {place : Nat}
    {madeAt : Instant} {compiled : CompiledRule} (known : ApprovalAction.of? entry = some action)
    (success : CompiledRule.compile (entry.toRule action place madeAt) = .ok compiled) :
    Compiled entry compiled := by
  obtain ⟨programs, compiles, rfl⟩ := Outcome.map_eq_ok_iff.1 success
  cases parsed : parse entry.condition with
  | error error => simp [toRule, Condition.compileAll, Condition.source?, parsed] at compiles
  | ok program =>
    simp only [toRule, Condition.compileAll, Condition.source?, parsed] at compiles
    cases compiles
    exact .rule known parsed place madeAt

/-- Where every action is known, the list compiles entry by entry. -/
theorem forall₂_compiled {entries : List ApprovalRule} {place : Nat} {madeAt : Instant}
    {rules : List CompiledRule} (known : violations place entries = [])
    (success : CompiledRule.compileAll (toRules madeAt place entries) = .ok rules) :
    List.Forall₂ Compiled entries rules := by
  induction entries generalizing place rules with
  | nil =>
    cases success
    exact .nil
  | cons entry rest ih =>
    rw [violations, List.append_eq_nil_iff] at known
    obtain ⟨headKnown, restKnown⟩ := known
    cases found : ApprovalAction.of? entry with
    | none => simp [found, FieldViolation.report] at headKnown
    | some action =>
      simp only [toRules, found, Option.map_some, Option.toList_some, List.singleton_append] at success
      obtain ⟨compiled, others, first, later, rfl⟩ := CompiledRule.compileAll_cons_eq_ok_iff.1 success
      exact .cons (compiled_of_compile found first) (ih restKnown later)

section

variable {entry : ApprovalRule} {compiled : CompiledRule} (options : Options) (record : Record)
  (now : Instant)

/-- A rule passes exactly if its entry holds of the record, and then leaves the record that the entry says. -/
theorem Compiled.attempt (stands : Compiled entry compiled) :
    ((compiled.result options now record).passed = (entry.interpret? record now).isSome) ∧
      (compiled.attempt record options now).record = (entry.interpret? record now).getD record ∧
        (compiled.attempt record options now).notifications = [] := by
  cases stands with
  | @rule action program known parsed place madeAt =>
    have verdict : (CompiledRule.result options now ⟨entry.toRule action place madeAt, [some program]⟩
        record).passed = program.holds record now := rfl
    obtain ⟨written, performed⟩ := Option.isSome_iff_exists.1 (action.perform?_toAction_isSome record now)
    have writes : entry.write? record now = some written :=
      (ApprovalAction.perform?_toAction record now known).symm.trans performed
    have interpreted : entry.interpret? record now = if program.holds record now then some written else none := by
      simp only [interpret?, parsed, writes]
    have effect : (entry.toRule action place madeAt).effect record now = ⟨written, 1, []⟩ := by
      simp [Rule.effect, toRule, Rule.perform, performed, ApprovalAction.notifications_toAction]
    rw [interpreted]
    cases holds : program.holds record now with
    | true =>
      rw [CompiledRule.attempt_of_passed options now (verdict.trans holds), effect, verdict, holds]
      exact ⟨rfl, rfl, rfl⟩
    | false =>
      rw [CompiledRule.attempt_of_failed options now (verdict.trans holds), verdict, holds]
      exact ⟨rfl, rfl, rfl⟩

theorem attemptAll_of_compiled {entries : List ApprovalRule} {rules : List CompiledRule}
    (stand : List.Forall₂ Compiled entries rules) (goesOn : options.stopsAtFailure = false) :
    (CompiledRule.attemptAll options now rules record).record = (interpretAll now entries record).1 ∧
      (CompiledRule.attemptAll options now rules record).results.countP RuleResult.passed =
          (interpretAll now entries record).2 ∧
        (CompiledRule.attemptAll options now rules record).notifications = [] := by
  induction stand generalizing record with
  | nil => exact ⟨rfl, rfl, rfl⟩
  | @cons entry compiled entries rules first _ ih =>
    -- The later rules are tried on the record that the first entry leaves.
    obtain ⟨passed, left, silent⟩ := first.attempt options record now
    obtain ⟨final, held, quiet⟩ := ih (compiled.attempt record options now).record
    rw [left] at final held quiet
    rw [CompiledRule.attemptAll_cons]
    simp only [goesOn, Bool.false_and, Bool.false_eq_true, if_false, left, silent, quiet,
      List.countP_cons, passed, held, final]
    cases outcome : entry.interpret? record now with
    | none => simp [interpretAll, outcome]
    | some changed => simp [interpretAll, outcome]

end

/-- A purchase request after the entries of a list, with the time and the number of those that held. -/
def processed (entries : List ApprovalRule) (request : Record) (now : Instant) : Record :=
  ((interpretAll now entries request).1.insert "processedAt" (.string now.stamp)).insert "rulesApplied"
    (.ofNat (interpretAll now entries request).2)

theorem processPurchaseRequest_of_compiled {entries : List ApprovalRule} {rules : List CompiledRule}
    (stand : List.Forall₂ Compiled entries rules) (request : Record) (now : Instant) :
    processPurchaseRequest rules request now = .ok (processed entries request now, []) := by
  obtain ⟨final, held, quiet⟩ := attemptAll_of_compiled .batch request now stand rfl
  cases stand with
  | nil => rfl
  | cons first rest =>
    rw [processed, ← final, ← held, ← quiet]
    rfl

theorem level_of_compiled {entries : List ApprovalRule} {rules : List CompiledRule}
    (stand : List.Forall₂ Compiled entries rules) :
    ∀ compiled ∈ rules, compiled.rule.priority = Rule.defaultPriority ∧ compiled.rule.active = true := by
  induction stand with
  | nil => simp
  | cons first _ ih =>
    refine List.forall_mem_cons.2 ⟨?_, ih⟩
    cases first
    exact ⟨rfl, rfl⟩

theorem byPriority_of_compiled {entries : List ApprovalRule} {rules : List CompiledRule}
    (stand : List.Forall₂ Compiled entries rules) : CompiledRule.byPriority rules = rules := by
  -- All rules of a list have one priority, so a stable sort leaves them in the order of their entries.
  have level := level_of_compiled stand
  apply List.mergeSort_of_pairwise
  refine List.pairwise_of_forall_mem_list (fun left leftMember right rightMember => decide_eq_true ?_)
  rw [(level left leftMember).1, (level right rightMember).1]
  exact Int32.le_refl _

theorem activeRules_of_compiled {entries : List ApprovalRule} {snapshot : Snapshot}
    (stand : List.Forall₂ Compiled entries snapshot.rules) : snapshot.activeRules = snapshot.rules :=
  List.filter_eq_self.2 (fun compiled member => (level_of_compiled stand compiled member).2)

end ApprovalRule

theorem ApprovalRules.toRuleSet_eq_ok {list : ApprovalRules} {madeAt : Instant} {ruleSet : RuleSet}
    (success : list.toRuleSet madeAt = .ok ruleSet) :
    ApprovalRule.violations 0 list.entries = [] ∧
      ruleSet.rules = ApprovalRule.toRules madeAt 0 list.entries := by
  rw [toRuleSet] at success
  split at success
  next none =>
    cases success
    exact ⟨none, rfl⟩
  next some => cases success

theorem Snapshot.rules_of_ofRuleSet {ruleSet : RuleSet} {now : Instant} {snapshot : Snapshot}
    (success : ofRuleSet ruleSet now = .ok snapshot) :
    ∃ rules, CompiledRule.compileAll ruleSet.rules = .ok rules ∧
      snapshot.rules = CompiledRule.byPriority rules := by
  rw [ofRuleSet, Outcome.check_bind_eq_ok_iff, Outcome.bind_eq_ok_iff] at success
  obtain ⟨_, rules, compiles, same⟩ := success
  cases same
  exact ⟨rules, compiles, rfl⟩

namespace Service

/-- The approval rules of a service that are tried are those of a list, entry by entry. -/
def Applies (service : Service) (entries : List ApprovalRule) : Prop :=
  List.Forall₂ ApprovalRule.Compiled entries service.approvalRules.activeRules

theorem applies_of_load {service : Service} {payload : Json} {now : Instant} {report : LoadReport}
    (success : (service.loadApprovalRules payload now).1 = .ok report) :
    ∃ list, ApprovalRules.accept payload = .ok list ∧
      (service.loadApprovalRules payload now).2.Applies list.entries := by
  unfold loadApprovalRules at success ⊢
  split at success
  next snapshot store loaded =>
    obtain ⟨ruleSet, made, saved⟩ := Outcome.bind_eq_ok_iff.1 loaded
    obtain ⟨list, accepted, converted⟩ := Outcome.bind_eq_ok_iff.1 made
    obtain ⟨snapshot', built, same⟩ := Outcome.map_eq_ok_iff.1 saved
    cases same
    obtain ⟨known, declared⟩ := ApprovalRules.toRuleSet_eq_ok converted
    obtain ⟨rules, compiles, sorted⟩ := Snapshot.rules_of_ofRuleSet built
    rw [declared] at compiles
    have stand := ApprovalRule.forall₂_compiled known compiles
    rw [ApprovalRule.byPriority_of_compiled stand] at sorted
    rw [← sorted] at stand
    refine ⟨list, accepted, ?_⟩
    change List.Forall₂ ApprovalRule.Compiled list.entries snapshot.activeRules
    rw [ApprovalRule.activeRules_of_compiled stand]
    exact stand
  next failed => cases success

/-- The entries in force after an operation: those of a list that it accepted, or else the ones before. -/
def Operation.entriesInForce (operation : Operation) (failure : Option RuleError)
    (before : List ApprovalRule) : List ApprovalRule :=
  match operation, failure with
  | .loadApprovalRules payload, none =>
    (ApprovalRules.accept payload).toOption.elim before ApprovalRules.entries
  | _, _ => before

/-- The entries of the list that was accepted last in a run of operations, or else the ones before. -/
def entriesInForce (before : List ApprovalRule) : Service → List (Operation × Instant) → List ApprovalRule
  | _, [] => before
  | service, (operation, now) :: rest =>
    entriesInForce (operation.entriesInForce (service.perform operation now).1 before)
      (service.perform operation now).2 rest

theorem Operation.entriesInForce_of_unwritten {operation : Operation} {failure : Option RuleError}
    (unwritten : operation.written failure ≠ some .approvalRules) (before : List ApprovalRule) :
    operation.entriesInForce failure before = before := by
  cases failure with
  | some error => cases operation <;> rfl
  | none =>
    cases operation with
    | loadApprovalRules payload => exact absurd rfl unwritten
    | _ => rfl

theorem Applies.perform {service : Service} {before : List ApprovalRule} (applies : service.Applies before)
    (operation : Operation) (now : Instant) :
    (service.perform operation now).2.Applies
      (operation.entriesInForce (service.perform operation now).1 before) := by
  by_cases written : operation.written (service.perform operation now).1 = some .approvalRules
  case neg =>
    have same := (service.writes_perform operation now).same written
    rw [Operation.entriesInForce_of_unwritten written, Applies, ← (same : service.approvalRules = _)]
    exact applies
  case pos =>
    -- Only a list that is accepted writes the approval rules.
    cases failure : (service.perform operation now).1 with
    | some error =>
      rw [failure] at written
      cases written
    | none =>
      rw [failure] at written
      cases operation with
      | loadApprovalRules payload =>
        cases answer : (service.loadApprovalRules payload now).1 with
        | error error => simp [Service.perform, perform.outcome, perform.failure, answer] at failure
        | ok report =>
          obtain ⟨list, accepted, stands⟩ := applies_of_load answer
          rw [Operation.entriesInForce, accepted]
          exact stands
      | _ => cases written

theorem Applies.afterAll {service : Service} {before : List ApprovalRule} (applies : service.Applies before)
    (operations : List (Operation × Instant)) :
    (service.afterAll operations).Applies (entriesInForce before service operations) := by
  induction operations generalizing service before with
  | nil => exact applies
  | cons step rest ih => exact ih (applies.perform step.1 step.2)

/-- After any operations on a new service, a purchase request is processed without an error, and what comes out
is what the approval list that was accepted last says by itself, or an empty list as long as none was. -/
theorem purchase_requests_follow_list (capacity : Nat) (ids : Nat → String)
    (operations : List (Operation × Instant)) (request : Record) (now : Instant) :
    processPurchaseRequest ((new capacity ids).afterAll operations).approvalRules.activeRules request now =
      .ok (ApprovalRule.processed (entriesInForce [] (new capacity ids) operations) request now, []) := by
  have applies : (new capacity ids).Applies [] := .nil
  exact ApprovalRule.processPurchaseRequest_of_compiled (applies.afterAll operations) request now

end Service

end Verdict
