import Verdict.Proofs.Evaluation.Diagnosis
/-!
What recommendations depend on. The errors of condition results never come into them; without the results of
conditions one line is left for each failed rule, and nothing else is lost.
-/

namespace Verdict

namespace RuleResult

/-- A rule result without the errors of its conditions. -/
def withoutFaults (result : RuleResult) : RuleResult :=
  { result with conditions := result.conditions.map (List.map ConditionResult.withoutFault) }

/-- A rule result without the results of its conditions. -/
def withoutConditions (result : RuleResult) : RuleResult :=
  { result with conditions := none }

theorem passed_withoutFaults (result : RuleResult) : result.withoutFaults.passed = result.passed := rfl

theorem passed_withoutConditions (result : RuleResult) :
    result.withoutConditions.passed = result.passed := rfl

theorem map_conditionLine_withoutFault (outcomes : List ConditionResult) :
    ((outcomes.map ConditionResult.withoutFault).filter (fun outcome => !outcome.passed)).map conditionLine =
      (outcomes.filter (fun outcome => !outcome.passed)).map conditionLine := by
  rw [List.filter_map, List.map_map]
  exact List.map_congr_left (fun _ _ => rfl)

theorem recommendations_withoutFaults (result : RuleResult) :
    result.withoutFaults.recommendations = result.recommendations := by
  have passed : result.withoutFaults.passed = result.passed := rfl
  have headline : result.withoutFaults.headline = result.headline := rfl
  have conditions : result.withoutFaults.conditions.getD [] =
      (result.conditions.getD []).map ConditionResult.withoutFault := by
    rw [withoutFaults]
    cases result.conditions <;> rfl
  rw [recommendations, recommendations, passed, headline, conditions, map_conditionLine_withoutFault]

theorem recommendations_withoutConditions (result : RuleResult) :
    result.withoutConditions.recommendations = if result.passed then [] else [result.headline] := rfl

theorem flatMap_recommendations_eq_nil_iff (results : List RuleResult) :
    results.flatMap recommendations = [] ↔ ∀ result ∈ results, result.passed = true := by
  rw [List.flatMap_eq_nil_iff]
  refine forall₂_congr (fun result _ => ?_)
  cases verdict : result.passed <;> simp [recommendations, verdict]

/-- Without conditions there is one line for each failed rule. -/
theorem flatMap_withoutConditions (results : List RuleResult) :
    (results.map withoutConditions).flatMap recommendations =
      (results.filter (fun result => !result.passed)).map headline := by
  induction results with
  | nil => rfl
  | cons result rest ih =>
    rw [List.map_cons, List.flatMap_cons, ih, recommendations_withoutConditions]
    by_cases passed : result.passed = true
    · rw [if_pos passed, List.filter_cons_of_neg (by simp [passed]), List.nil_append]
    · rw [if_neg passed, List.filter_cons_of_pos (by simp [passed]), List.map_cons, List.singleton_append]

theorem flatMap_withoutConditions_sublist (results : List RuleResult) :
    ((results.map withoutConditions).flatMap recommendations).Sublist (results.flatMap recommendations) := by
  induction results with
  | nil => exact List.Sublist.refl []
  | cons result rest ih =>
    rw [List.map_cons, List.flatMap_cons, List.flatMap_cons]
    refine List.Sublist.append ?_ ih
    rw [recommendations_withoutConditions, recommendations]
    by_cases passed : result.passed = true
    · rw [if_pos passed, if_pos passed]
    · rw [if_neg passed, if_neg passed]
      exact (List.nil_sublist _).cons_cons _

theorem mem_recommendations {result : RuleResult} {line : String} (listed : line ∈ result.recommendations) :
    line ∈ result.withoutConditions.recommendations ∨
      result.passed = false ∧ ∃ outcome ∈ result.conditions.getD [],
        outcome.passed = false ∧ line = conditionLine outcome := by
  rw [recommendations_withoutConditions]
  rw [recommendations] at listed
  by_cases passed : result.passed = true
  · rw [if_pos passed] at listed
    cases listed
  · rw [if_neg passed] at listed ⊢
    rcases List.mem_cons.1 listed with same | inner
    · exact .inl (List.mem_singleton.2 same)
    · obtain ⟨outcome, failed, rfl⟩ := List.mem_map.1 inner
      obtain ⟨member, failed⟩ := List.mem_filter.1 failed
      exact .inr ⟨Bool.eq_false_iff.2 passed, outcome, member, by simpa using failed, rfl⟩

end RuleResult

namespace Summary

/-- A summary without the errors of condition results. -/
def withoutFaults (summary : Summary) : Summary :=
  { summary with results := summary.results.map RuleResult.withoutFaults }

/-- A summary without the results of conditions. -/
def withoutConditions (summary : Summary) : Summary :=
  { summary with results := summary.results.map RuleResult.withoutConditions }

theorem recommendations_of_all_passed {summary : Summary}
    (passed : ∀ result ∈ summary.results, result.passed = true) : summary.recommendations = [allPassed] := by
  have none := (RuleResult.flatMap_recommendations_eq_nil_iff summary.results).2 passed
  rw [recommendations, none]

theorem recommendations_of_failure {summary : Summary}
    (failure : ¬∀ result ∈ summary.results, result.passed = true) :
    summary.recommendations = summary.results.flatMap RuleResult.recommendations := by
  have some := mt (RuleResult.flatMap_recommendations_eq_nil_iff summary.results).1 failure
  rw [recommendations]
  split
  next none => exact absurd none some
  next => rfl

theorem recommendations_withoutFaults (summary : Summary) :
    summary.withoutFaults.recommendations = summary.recommendations := by
  have lines : summary.withoutFaults.results.flatMap RuleResult.recommendations =
      summary.results.flatMap RuleResult.recommendations := by
    rw [withoutFaults, List.flatMap_map]
    exact congrArg (fun lines => summary.results.flatMap lines)
      (funext RuleResult.recommendations_withoutFaults)
  rw [recommendations, recommendations, lines]

/-- The recommendations without the lines for single conditions: one line for each failed rule. -/
def headlines (summary : Summary) : List String :=
  match (summary.results.filter (fun result => !result.passed)).map RuleResult.headline with
  | [] => [allPassed]
  | lines => lines

theorem recommendations_withoutConditions (summary : Summary) :
    summary.withoutConditions.recommendations = summary.headlines := by
  have lines := RuleResult.flatMap_withoutConditions summary.results
  rw [recommendations, withoutConditions, lines]
  rfl

theorem all_passed_withoutConditions_iff (summary : Summary) :
    (∀ result ∈ summary.withoutConditions.results, result.passed = true) ↔
      ∀ result ∈ summary.results, result.passed = true :=
  List.forall_mem_map

theorem recommendations_withoutConditions_sublist (summary : Summary) :
    summary.withoutConditions.recommendations.Sublist summary.recommendations := by
  have verdicts := summary.all_passed_withoutConditions_iff
  by_cases passed : ∀ result ∈ summary.results, result.passed = true
  · rw [recommendations_of_all_passed passed, recommendations_of_all_passed (verdicts.2 passed)]
  · rw [recommendations_of_failure passed, recommendations_of_failure (mt verdicts.1 passed)]
    exact RuleResult.flatMap_withoutConditions_sublist summary.results

/-- What the results of conditions add to the recommendations are lines about conditions that failed. -/
theorem mem_recommendations {summary : Summary} {line : String} (listed : line ∈ summary.recommendations) :
    line ∈ summary.withoutConditions.recommendations ∨
      ∃ result ∈ summary.results, result.passed = false ∧ ∃ outcome ∈ result.conditions.getD [],
        outcome.passed = false ∧ line = RuleResult.conditionLine outcome := by
  have verdicts := summary.all_passed_withoutConditions_iff
  by_cases passed : ∀ result ∈ summary.results, result.passed = true
  · rw [recommendations_of_all_passed passed] at listed
    rw [recommendations_of_all_passed (verdicts.2 passed)]
    exact .inl listed
  · rw [recommendations_of_failure passed, List.mem_flatMap] at listed
    obtain ⟨result, member, inner⟩ := listed
    rcases RuleResult.mem_recommendations inner with head | condition
    · rw [recommendations_of_failure (mt verdicts.1 passed), List.mem_flatMap]
      exact .inl ⟨result.withoutConditions, List.mem_map_of_mem member, head⟩
    · exact .inr ⟨result, member, condition⟩

end Summary

end Verdict
