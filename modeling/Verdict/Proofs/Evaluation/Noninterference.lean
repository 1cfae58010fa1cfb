import Verdict.Proofs.Evaluation.Recommendation
import Verdict.Proofs.Evaluation.Stopping
/-!
What the options of an evaluation cannot change. Two evaluations of one record that differ in strictness
alone agree in everything but the errors of condition results, and two that differ in keeping the results of
conditions agree in everything but these results and the recommendations made from them. Both follow from one
fact: if an option does not change what a view of the results shows, verdicts included, then it changes
neither the record that the next rule sees nor the notifications.
-/

namespace Verdict

open Time (Instant)

/-- Two trials that look alike: in the view of their results, in the record and in the notifications. -/
structure Trial.Alike (view : RuleResult → RuleResult) (first second : Trial) : Prop where
  results : first.results.map view = second.results.map view
  record : first.record = second.record
  notifications : first.notifications = second.notifications

namespace CompiledRule

section Views

variable {view : RuleResult → RuleResult} (shows : ∀ result, (view result).passed = result.passed)
  (first second : Options) (now : Instant)

include shows

theorem attempt_alike {compiled : CompiledRule} {record : Record}
    (same : view (compiled.result first now record) = view (compiled.result second now record)) :
    Trial.Alike view (compiled.attempt record first now) (compiled.attempt record second now) := by
  have verdicts : (compiled.result first now record).passed = (compiled.result second now record).passed := by
    rw [← shows, same, shows]
  cases verdict : (compiled.result second now record).passed with
  | true =>
    rw [attempt_of_passed first now (verdicts.trans verdict), attempt_of_passed second now verdict]
    exact ⟨congrArg (fun result => [result]) same, rfl, rfl⟩
  | false =>
    rw [attempt_of_failed first now (verdicts.trans verdict), attempt_of_failed second now verdict]
    exact ⟨congrArg (fun result => [result]) same, rfl, rfl⟩

/-- If both options give every rule the same look on every record, whole trials look alike: the records in
between are the same, and so are the points at which the trials may stop. -/
theorem attemptAll_alike (stops : first.stopsAtFailure = second.stopsAtFailure)
    (same : ∀ (compiled : CompiledRule) (record : Record),
      view (compiled.result first now record) = view (compiled.result second now record))
    (rules : List CompiledRule) (record : Record) :
    Trial.Alike view (attemptAll first now rules record) (attemptAll second now rules record) := by
  induction rules generalizing record with
  | nil => exact ⟨rfl, rfl, rfl⟩
  | cons compiled rest ih =>
    have tried := attempt_alike shows first second now (same compiled record)
    have verdicts : (compiled.result first now record).passed = (compiled.result second now record).passed := by
      rw [← shows, same, shows]
    rw [attemptAll_cons, attemptAll_cons]
    simp only [stops, verdicts]
    by_cases ends : (second.stopsAtFailure && !(compiled.result second now record).passed) = true
    · simp only [ends, if_true]
      exact tried
    · simp only [ends, Bool.false_eq_true, if_false, tried.record]
      have later := ih (compiled.attempt record second now).record
      constructor
      case results => simp only [List.map_cons, same, later.results]
      case record => exact later.record
      case notifications => simp only [tried.notifications, later.notifications]

end Views

theorem verdict_withoutFault (compiled : CompiledRule) (outcomes : List ConditionResult) :
    compiled.verdict (outcomes.map ConditionResult.withoutFault) = compiled.verdict outcomes := by
  rw [verdict, verdict, List.map_map]
  rfl

theorem withoutFaults_result (compiled : CompiledRule) (options : Options) (strict : Bool) (now : Instant)
    (record : Record) :
    (compiled.result options now record).withoutFaults =
      (compiled.result { options with strict := strict } now record).withoutFaults := by
  have outcomes : (compiled.conditionResults record options.strict now).map ConditionResult.withoutFault =
      (compiled.conditionResults record strict now).map ConditionResult.withoutFault :=
    Condition.map_withoutFault_evaluateAll record options.strict strict now _ _
  have verdicts : compiled.verdict (compiled.conditionResults record options.strict now) =
      compiled.verdict (compiled.conditionResults record strict now) := by
    rw [← verdict_withoutFault, outcomes, verdict_withoutFault]
  by_cases keeps : options.keepsConditions = true
  · simp only [result, RuleResult.withoutFaults, keeps, if_true, Option.map_some, outcomes, verdicts]
  · simp only [result, RuleResult.withoutFaults, keeps, verdicts]
    rfl

theorem withoutConditions_result (compiled : CompiledRule) (options : Options) (keeps : Bool)
    (now : Instant) (record : Record) :
    (compiled.result options now record).withoutConditions =
      (compiled.result { options with keepsConditions := keeps } now record).withoutConditions := rfl

end CompiledRule

namespace Summary

/-- Two summaries that count alike. -/
structure SameTally (first second : Summary) : Prop where
  total : first.totalRules = second.totalRules
  passed : first.passedRules = second.passedRules
  failed : first.failedRules = second.failedRules
  status : first.status = second.status

theorem sameTally_of_map_eq {view : RuleResult → RuleResult}
    (shows : ∀ result, (view result).passed = result.passed) {first second : Summary}
    (same : first.results.map view = second.results.map view) : first.SameTally second := by
  have total : first.totalRules = second.totalRules := by
    simpa only [totalRules, List.length_map] using congrArg List.length same
  have verdicts : RuleResult.passed ∘ view = RuleResult.passed := funext shows
  have passed : first.passedRules = second.passedRules := by
    simpa only [passedRules, List.countP_map, verdicts] using congrArg (List.countP RuleResult.passed) same
  have failed : first.failedRules = second.failedRules := by rw [failedRules, failedRules, total, passed]
  exact ⟨total, passed, failed, by rw [status, status, failed]⟩

end Summary

namespace Evaluation

/-- Two evaluations that differ in the errors of condition results alone. -/
structure SameButFaults (first second : Evaluation) : Prop where
  summary : first.summary.withoutFaults = second.summary.withoutFaults
  recommendations : first.summary.recommendations = second.summary.recommendations
  tally : first.summary.SameTally second.summary
  notifications : first.notifications = second.notifications

/-- Two evaluations of which the second leaves out the results of conditions and the lines about them. -/
structure LeftOutConditions (detailed brief : Evaluation) : Prop where
  kept : ∀ result ∈ detailed.summary.results, result.conditions.isSome = true
  summary : brief.summary = detailed.summary.withoutConditions
  recommendations : brief.summary.recommendations = detailed.summary.headlines
  order : brief.summary.recommendations.Sublist detailed.summary.recommendations
  added : ∀ line ∈ detailed.summary.recommendations, line ∈ brief.summary.recommendations ∨
    ∃ result ∈ detailed.summary.results, result.passed = false ∧ ∃ outcome ∈ result.conditions.getD [],
      outcome.passed = false ∧ line = RuleResult.conditionLine outcome
  tally : detailed.summary.SameTally brief.summary
  notifications : detailed.notifications = brief.notifications

/-- The errors of an evaluation of a record mean what they say: every kept condition result is diagnosed on
the record that the rule found, which the results before it tell. -/
def Diagnosed (evaluation : Evaluation) (record : Record) (strict : Bool) (now : Instant) : Prop :=
  ∀ (index : Nat) (result : RuleResult) (outcomes : List ConditionResult),
    evaluation.summary.results[index]? = some result → result.conditions = some outcomes →
      List.Forall₂
        (fun condition outcome =>
          condition.Diagnosed
            (RuleResult.recordAfter now record (evaluation.summary.results.take index)) strict outcome)
        result.rule.conditions outcomes

end Evaluation

/-- How the evaluations of one record under all options are related. -/
structure OptionsOnlyReport (rules : List CompiledRule) (record : Record) (now : Instant)
    (run : Options → Evaluation) : Prop where
  runs : ∀ options, evaluate rules record options now = .ok (run options)
  strictness : ∀ (options : Options) (strict : Bool),
    (run options).SameButFaults (run { options with strict := strict })
  details : ∀ options : Options, (run { options with keepsConditions := true }).LeftOutConditions
    (run { options with keepsConditions := false })
  diagnosed : ∀ options, (run options).Diagnosed record options.strict now

namespace CompiledRule

theorem sameButFaults_attemptAll (rules : List CompiledRule) (record : Record) (now : Instant)
    (options : Options) (strict : Bool) :
    ((attemptAll options now rules record).evaluation now).SameButFaults
      ((attemptAll { options with strict := strict } now rules record).evaluation now) := by
  have alike := attemptAll_alike RuleResult.passed_withoutFaults options { options with strict := strict } now
    rfl (fun compiled record => compiled.withoutFaults_result options strict now record) rules record
  have summary : ((attemptAll options now rules record).evaluation now).summary.withoutFaults =
      ((attemptAll { options with strict := strict } now rules record).evaluation
        now).summary.withoutFaults := by
    simp only [Trial.evaluation, Summary.withoutFaults, alike.results, alike.record]
  constructor
  case summary => exact summary
  case recommendations =>
    rw [← Summary.recommendations_withoutFaults, summary, Summary.recommendations_withoutFaults]
  case tally => exact Summary.sameTally_of_map_eq RuleResult.passed_withoutFaults alike.results
  case notifications => exact alike.notifications

theorem map_withoutConditions_results (options : Options) (now : Instant)
    (leavesOut : options.keepsConditions = false) (rules : List CompiledRule) (record : Record) :
    (attemptAll options now rules record).results.map RuleResult.withoutConditions =
      (attemptAll options now rules record).results := by
  have unchanged : ∀ result ∈ (attemptAll options now rules record).results,
      result.withoutConditions = result := by
    intro result member
    obtain ⟨compiled, before, rfl⟩ := exists_of_mem_results_attemptAll options now member
    simp only [CompiledRule.result, RuleResult.withoutConditions, leavesOut]
    rfl
  exact (List.map_congr_left unchanged).trans (List.map_id' _)

theorem leftOutConditions_attemptAll (rules : List CompiledRule) (record : Record) (now : Instant)
    (options : Options) :
    ((attemptAll { options with keepsConditions := true } now rules record).evaluation now).LeftOutConditions
      ((attemptAll { options with keepsConditions := false } now rules record).evaluation now) := by
  have alike := attemptAll_alike RuleResult.passed_withoutConditions
    { options with keepsConditions := true } { options with keepsConditions := false } now rfl
    (fun compiled record =>
      compiled.withoutConditions_result { options with keepsConditions := true } false now record) rules record
  have summary :
      ((attemptAll { options with keepsConditions := false } now rules record).evaluation now).summary =
        ((attemptAll { options with keepsConditions := true } now rules record).evaluation
          now).summary.withoutConditions := by
    simp only [Trial.evaluation, Summary.withoutConditions, alike.results, alike.record]
    rw [map_withoutConditions_results _ now rfl]
  constructor
  case kept =>
    intro result member
    obtain ⟨compiled, before, rfl⟩ := exists_of_mem_results_attemptAll _ now member
    rfl
  case summary => exact summary
  case recommendations => rw [summary, Summary.recommendations_withoutConditions]
  case order =>
    rw [summary]
    exact Summary.recommendations_withoutConditions_sublist _
  case added =>
    intro line listed
    rw [summary]
    exact Summary.mem_recommendations listed
  case tally => exact Summary.sameTally_of_map_eq RuleResult.passed_withoutConditions alike.results
  case notifications => exact alike.notifications

theorem diagnosed_attemptAll (rules : List CompiledRule) (record : Record) (now : Instant)
    (options : Options) :
    ((attemptAll options now rules record).evaluation now).Diagnosed record options.strict now := by
  intro index result outcomes listed kept
  obtain ⟨compiled, _, rfl⟩ := getElem?_results_attemptAll options now listed
  have same : compiled.conditionResults (RuleResult.recordAfter now record
      ((attemptAll options now rules record).results.take index)) options.strict now = outcomes := by
    by_cases keeps : options.keepsConditions = true
    · rw [CompiledRule.result, if_pos keeps] at kept
      exact Option.some.inj kept
    · rw [CompiledRule.result, if_neg keeps] at kept
      cases kept
  rw [← same]
  exact Condition.forall₂_diagnosed_evaluateAll _ options.strict now _ _

end CompiledRule

/-- With an active rule a record can be evaluated under all options. Strictness changes the errors of
condition results and nothing else; keeping the results of conditions adds these and the lines about failed
conditions, and nothing else. A condition result with an error has failed, and in strict mode an ordering of
a named field has an error exactly if the field or the expected value stands for no number. -/
theorem options_change_reports_only {snapshot : Snapshot} (someActive : snapshot.activeRules ≠ [])
    (record : Record) (now : Instant) :
    ∃ run : Options → Evaluation, OptionsOnlyReport snapshot.activeRules record now run := by
  refine ⟨fun options =>
    (CompiledRule.attemptAll options now snapshot.activeRules record).evaluation now, ?_⟩
  constructor
  case runs =>
    intro options
    exact evaluate_eq_ok_iff.2 ⟨someActive, rfl⟩
  case strictness => exact CompiledRule.sameButFaults_attemptAll snapshot.activeRules record now
  case details => exact CompiledRule.leftOutConditions_attemptAll snapshot.activeRules record now
  case diagnosed => exact CompiledRule.diagnosed_attemptAll snapshot.activeRules record now

/-- The first rule passes and notes that an approval is required; the second one orders this note. -/
def orderingSnapshot : Snapshot :=
  ⟨"1", ⟨"ordering", none, none, none⟩, ⟨0, 0⟩,
    [approvalRule "a" "amount" .exists, approvalRule "b" "approvalRequired" .greaterThan].map (⟨·, [none]⟩)⟩

theorem ordering_rules_report :
    orderingSnapshot.activeRules ≠ [] ∧
      (CompiledRule.attemptAll ⟨true, false, true⟩ ⟨0, 0⟩ orderingSnapshot.activeRules
          [("amount", .bool true)]).results.map
            (fun result => (result.conditions.getD []).map ConditionResult.fault) =
        [[none], [some (.fieldNotNumber "approvalRequired" "boolean")]] ∧
      ∃ run : Options → Evaluation,
        OptionsOnlyReport orderingSnapshot.activeRules [("amount", .bool true)] ⟨0, 0⟩ run := by
  have someActive : orderingSnapshot.activeRules ≠ [] := List.cons_ne_nil _ _
  exact ⟨someActive, by decide +kernel, options_change_reports_only someActive _ _⟩

end Verdict
