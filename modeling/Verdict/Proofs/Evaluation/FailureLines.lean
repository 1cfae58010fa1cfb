import Verdict.Proofs.Evaluation.Combination
import Verdict.Proofs.Evaluation.Recommendation
import Verdict.Proofs.Evaluation.Trial
import Verdict.Proofs.Store.Invariant
/-!
What is said about the rules that failed. The recommendations are either praise or one paragraph for each failed
rule, in the order of the rules: a line that names the rule and, where the results of conditions are kept, a line
for each of its conditions that failed. Verdicts fail together only if one of them fails, and saved rules have
conditions, so with details no paragraph about a saved rule stops at the name.
-/

namespace Verdict

open Time (Instant)

/-- The results that conditions give on a record, each in the place of its condition. -/
def Condition.Give (record : Record) (strict : Bool) (now : Instant) :
    (conditions : List Condition) → (outcomes : List ConditionResult) → Prop :=
  List.Forall₂ (fun condition outcome => ∃ program, outcome = condition.evaluate record program strict now)

theorem Condition.give_evaluateAll (record : Record) (strict : Bool) (now : Instant) (conditions : List Condition)
    (programs : List (Option Expr)) :
    Condition.Give record strict now conditions (evaluateAll record strict now conditions programs) := by
  induction conditions generalizing programs with
  | nil => exact .nil
  | cons condition rest ih => exact .cons ⟨_, rfl⟩ (ih _)

namespace RuleResult

/-- The lines for those conditions that failed, in the order of the conditions. -/
def conditionLines (outcomes : List ConditionResult) : List String :=
  (outcomes.filter (fun outcome => !outcome.passed)).map conditionLine

/-- A line that names a rule, with the id of the rule behind its name. -/
def Names (line : String) (rule : Rule) : Prop :=
  line = "Fix rule violation: " ++ rule.name ++ " (" ++ rule.id ++ ")"

theorem names_headline (result : RuleResult) : Names result.headline result.rule := rfl

/-- What is said about a rule that failed: a line that names it and, where the results of its conditions are kept,
a line for each of them that is a failure, in the order of the conditions. -/
inductive Told (options : Options) (now : Instant) (result : RuleResult) : List String → Prop where
  | brief (leavesOut : options.keepsConditions = false) {line : String} (names : Names line result.rule) :
    Told options now result [line]
  | inFull (keeps : options.keepsConditions = true) (before : Record) {line : String}
    {outcomes : List ConditionResult} (names : Names line result.rule)
    (given : Condition.Give before options.strict now result.rule.conditions outcomes)
    (kept : result.conditions = some outcomes) :
    Told options now result (line :: conditionLines outcomes)

theorem headline_ne_allPassed (result : RuleResult) : result.headline ≠ Summary.allPassed := by
  intro same
  have letters : ("Fix rule violation: " ++ result.rule.name ++ " (" ++ result.rule.id ++ ")").toList.head? =
      "All rules passed successfully. Procurement data is valid.".toList.head? :=
    congrArg (fun line => line.toList.head?) same
  simp only [String.toList_append, List.append_assoc] at letters
  -- The two texts begin with different letters.
  have named : ∀ rest, ("Fix rule violation: ".toList ++ rest).head? = some 'F' := fun _ => rfl
  have praised : "All rules passed successfully. Procurement data is valid.".toList.head? = some 'A' := rfl
  rw [named, praised] at letters
  cases letters

theorem recommendations_of_failed {result : RuleResult} (failed : result.passed = false) :
    result.recommendations = result.headline :: conditionLines (result.conditions.getD []) := by
  rw [recommendations, if_neg (Bool.eq_false_iff.1 failed)]
  rfl

/-- Rules that passed say nothing. -/
theorem flatMap_recommendations_eq (results : List RuleResult) :
    results.flatMap recommendations =
      ((results.filter (fun result => !result.passed)).map recommendations).flatten := by
  induction results with
  | nil => rfl
  | cons result rest ih =>
    rw [List.flatMap_cons, ih]
    cases verdict : result.passed with
    | true =>
      rw [List.filter_cons_of_neg (by simp [verdict]), recommendations, if_pos verdict, List.nil_append]
    | false => rw [List.filter_cons_of_pos (by simp [verdict]), List.map_cons, List.flatten_cons]

end RuleResult

/-- A record passes with praise, and praise stands for nothing else. -/
theorem Summary.recommendations_eq_allPassed_iff (summary : Summary) :
    summary.recommendations = [allPassed] ↔ ∀ result ∈ summary.results, result.passed = true := by
  refine ⟨fun praised => ?_, recommendations_of_all_passed⟩
  by_contra failure
  rw [recommendations_of_failure failure] at praised
  push Not at failure
  obtain ⟨result, member, failed⟩ := failure
  have named : result.headline ∈ summary.results.flatMap RuleResult.recommendations := by
    refine List.mem_flatMap.2 ⟨result, member, ?_⟩
    rw [RuleResult.recommendations_of_failed (Bool.eq_false_iff.2 failed)]
    exact List.mem_cons_self
  rw [praised, List.mem_singleton] at named
  exact result.headline_ne_allPassed named

namespace CompiledRule

variable {options : Options} {now : Instant} {compiled : CompiledRule} {record : Record}

theorem told_recommendations_result (failed : (compiled.result options now record).passed = false) :
    (compiled.result options now record).Told options now (compiled.result options now record).recommendations := by
  rw [RuleResult.recommendations_of_failed failed]
  cases keeps : options.keepsConditions with
  | true =>
    have kept : (compiled.result options now record).conditions =
        some (compiled.conditionResults record options.strict now) := by
      simp [result, keeps]
    rw [kept]
    exact .inFull keeps record (RuleResult.names_headline _) (Condition.give_evaluateAll record options.strict now _ _) kept
  | false =>
    have kept : (compiled.result options now record).conditions = none := by simp [result, keeps]
    rw [kept]
    exact .brief keeps (RuleResult.names_headline _)

/-- A rule with conditions fails only if one of them fails, and then this is said. -/
theorem two_le_length_recommendations (someCondition : compiled.rule.conditions ≠ [])
    (keeps : options.keepsConditions = true) (failed : (compiled.result options now record).passed = false) :
    2 ≤ (compiled.result options now record).recommendations.length := by
  have kept : (compiled.result options now record).conditions =
      some (compiled.conditionResults record options.strict now) := by
    simp [result, keeps]
  have someResult : (compiled.conditionResults record options.strict now).map ConditionResult.passed ≠ [] := by
    have each := (Condition.give_evaluateAll record options.strict now compiled.rule.conditions
      compiled.programs).length_eq
    rw [Ne, List.map_eq_nil_iff, ← List.length_eq_zero_iff, conditionResults, ← each, List.length_eq_zero_iff]
    exact someCondition
  obtain ⟨outcome, member, unmet⟩ := List.mem_map.1 (Connective.false_mem_of_combine someResult failed)
  have line : RuleResult.conditionLine outcome ∈
      RuleResult.conditionLines (compiled.conditionResults record options.strict now) :=
    List.mem_map_of_mem (List.mem_filter.2 ⟨member, by simp [unmet]⟩)
  rw [RuleResult.recommendations_of_failed failed, kept]
  exact Nat.succ_le_succ (List.length_pos_of_mem line)

/-- The results stand in the order of the rules. -/
theorem map_rule_results_attemptAll (options : Options) (now : Instant) (rules : List CompiledRule) (record : Record) :
    (attemptAll options now rules record).results.map RuleResult.rule <+: rules.map rule := by
  refine List.prefix_iff_getElem?.2 (fun index inRange => ?_)
  rw [List.length_map] at inRange
  obtain ⟨compiled, place, same⟩ :=
    getElem?_results_attemptAll options now (List.getElem?_eq_getElem inRange)
  rw [List.getElem?_map, place, List.getElem_map, same]
  rfl

end CompiledRule

/-- Saved rules have conditions. -/
theorem Store.Reachable.conditions_ne_nil {store : Store} (reachable : store.Reachable) {compiled : CompiledRule}
    (member : compiled ∈ store.activeRules) : compiled.rule.conditions ≠ [] := by
  rw [Store.activeRules] at member
  cases present : store.snapshot with
  | none => simp [present] at member
  | some snapshot =>
    rw [present] at member
    have kept := (reachable.wellFormed snapshot present).kept
    have listed : compiled.rule ∈ snapshot.plainRules := List.mem_map_of_mem (List.mem_filter.1 member).1
    exact (kept.rules compiled.rule listed).conditions

/-- An evaluation recommends nothing, with praise, exactly if no rule failed. Otherwise the recommendations are the
paragraphs about the failed rules, in the order of the rules; with the results of conditions, each paragraph about
a saved rule names a condition that failed. -/
theorem recommendations_tell_failures {rules : List CompiledRule} {record : Record} {options : Options}
    {now : Instant} {evaluation : Evaluation} (success : evaluate rules record options now = .ok evaluation) :
    evaluation.summary.results.map RuleResult.rule <+: rules.map CompiledRule.rule ∧
      (evaluation.summary.recommendations = [Summary.allPassed] ↔
        ∀ result ∈ evaluation.summary.results, result.passed = true) ∧
      ((∃ result ∈ evaluation.summary.results, result.passed = false) →
        ∃ paragraphs : List (List String),
          evaluation.summary.recommendations = paragraphs.flatten ∧
            List.Forall₂ (RuleResult.Told options now)
              (evaluation.summary.results.filter (fun result => !result.passed)) paragraphs ∧
            ∀ store : Store, store.Reachable → rules = store.activeRules → options.keepsConditions = true →
              ∀ lines ∈ paragraphs, 2 ≤ lines.length) := by
  obtain ⟨_, rfl⟩ := evaluate_eq_ok_iff.1 success
  refine ⟨CompiledRule.map_rule_results_attemptAll options now rules record,
    Summary.recommendations_eq_allPassed_iff _, fun failure => ?_⟩
  have tried {result : RuleResult}
      (member : result ∈ (CompiledRule.attemptAll options now rules record).results.filter
        (fun result => !result.passed)) :
      ∃ compiled ∈ rules, ∃ before, result = compiled.result options now before ∧ result.passed = false := by
    obtain ⟨listed, failed⟩ := List.mem_filter.1 member
    obtain ⟨index, inRange, rfl⟩ := List.getElem_of_mem listed
    obtain ⟨compiled, place, same⟩ :=
      CompiledRule.getElem?_results_attemptAll options now (List.getElem?_eq_getElem inRange)
    exact ⟨compiled, List.mem_of_getElem? place, _, same, by simpa using failed⟩
  refine ⟨((CompiledRule.attemptAll options now rules record).results.filter
      (fun result => !result.passed)).map RuleResult.recommendations, ?_,
    List.forall₂_map_right_iff.2 (List.forall₂_same.2 (fun result member => ?_)),
    fun store reachable saved keeps => List.forall_mem_map.2 (fun result member => ?_)⟩
  · obtain ⟨result, member, failed⟩ := failure
    have unmet : ¬∀ result ∈ ((CompiledRule.attemptAll options now rules record).evaluation now).summary.results,
        result.passed = true := fun passed => Bool.eq_false_iff.1 failed (passed result member)
    rw [Summary.recommendations_of_failure unmet]
    exact RuleResult.flatMap_recommendations_eq _
  · obtain ⟨compiled, _, before, rfl, failed⟩ := tried member
    exact CompiledRule.told_recommendations_result failed
  · obtain ⟨compiled, listed, before, rfl, failed⟩ := tried member
    exact CompiledRule.two_le_length_recommendations (reachable.conditions_ne_nil (saved ▸ listed)) keeps failed

/-- A rule that asks for an amount and a vendor, and one that asks for an amount alone. -/
def vendorRules : List Rule :=
  [{ Store.amountRule "a" 1 with
      conditions := [⟨.field "amount" .exists .null, .and⟩, ⟨.field "vendor" .exists .null, .and⟩] },
    Store.amountRule "b" 2]

/-- The store in which these rules are saved. -/
def vendorStore : Store :=
  Store.empty.afterAll [(.save ⟨"1", ⟨"vendors", none, none, none⟩, vendorRules⟩, ⟨0, 0⟩)]

/-- The rules as they are evaluated: no condition is an expression. -/
def compiledVendorRules : List CompiledRule :=
  vendorRules.map (fun rule => ⟨rule, rule.conditions.map (fun _ => none)⟩)

/-- The evaluation of a record without a vendor by these rules. -/
def vendorEvaluation : Evaluation :=
  (CompiledRule.attemptAll .single ⟨1, 0⟩ compiledVendorRules [("amount", .bool true)]).evaluation ⟨1, 0⟩

theorem missing_vendor_told :
    compiledVendorRules = vendorStore.activeRules ∧
      evaluate compiledVendorRules [("amount", .bool true)] .single ⟨1, 0⟩ = .ok vendorEvaluation ∧
      vendorEvaluation.summary.results.map RuleResult.passed = [false, true] ∧
      ∃ paragraphs : List (List String),
        vendorEvaluation.summary.recommendations = paragraphs.flatten ∧
          List.Forall₂ (RuleResult.Told .single ⟨1, 0⟩)
            (vendorEvaluation.summary.results.filter (fun result => !result.passed)) paragraphs ∧
          ∀ lines ∈ paragraphs, 2 ≤ lines.length := by
  have saved : compiledVendorRules = vendorStore.activeRules := by cbv
  have verdicts : vendorEvaluation.summary.results.map RuleResult.passed = [false, true] := by decide +kernel
  have success : evaluate compiledVendorRules [("amount", .bool true)] .single ⟨1, 0⟩ = .ok vendorEvaluation :=
    evaluate_eq_ok_iff.2 ⟨List.cons_ne_nil _ _, rfl⟩
  have failed : false ∈ vendorEvaluation.summary.results.map RuleResult.passed := by
    rw [verdicts]
    exact List.mem_cons_self
  obtain ⟨_, _, tells⟩ := recommendations_tell_failures success
  obtain ⟨paragraphs, whole, told, full⟩ := tells (List.mem_map.1 failed)
  exact ⟨saved, success, verdicts, paragraphs, whole, told, full vendorStore ⟨_, rfl⟩ saved rfl⟩

end Verdict
