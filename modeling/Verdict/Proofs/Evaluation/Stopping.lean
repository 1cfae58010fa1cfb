import Verdict.Proofs.Evaluation.Trial
/-!
Stopping at the first failure. An evaluation that stops sees the same rules on the same records as one that
goes on, until the first rule fails: its results are those of the other one up to and including that failure,
and both come to the same status.
-/

namespace Verdict

open Time (Instant)

namespace RuleResult

/-- The results up to and including the first that did not pass; all of them if all passed. -/
def untilFailure (results : List RuleResult) : List RuleResult :=
  results.take (results.findIdx (fun result => !result.passed) + 1)

theorem untilFailure_cons_of_passed {result : RuleResult} (passed : result.passed = true)
    (rest : List RuleResult) : untilFailure (result :: rest) = result :: untilFailure rest := by
  rw [untilFailure, List.findIdx_cons, passed]
  rfl

theorem untilFailure_cons_of_failed {result : RuleResult} (failed : result.passed = false)
    (rest : List RuleResult) : untilFailure (result :: rest) = [result] := by
  rw [untilFailure, List.findIdx_cons, failed]
  rfl

/-- A failure is not lost by stopping at the first one. -/
theorem all_passed_untilFailure_iff {results : List RuleResult} :
    (∀ result ∈ untilFailure results, result.passed = true) ↔
      ∀ result ∈ results, result.passed = true := by
  induction results with
  | nil => rfl
  | cons result rest ih =>
    cases verdict : result.passed with
    | true => rw [untilFailure_cons_of_passed verdict, List.forall_mem_cons, List.forall_mem_cons, ih]
    | false =>
      rw [untilFailure_cons_of_failed verdict, List.forall_mem_cons, List.forall_mem_cons]
      simp [verdict]

end RuleResult

namespace CompiledRule

variable (options : Options) (now : Instant)

theorem result_stopping (stops : Bool) (compiled : CompiledRule) (record : Record) :
    compiled.result { options with stopsAtFailure := stops } now record =
      compiled.result options now record := rfl

theorem attempt_stopping (stops : Bool) (compiled : CompiledRule) (record : Record) :
    compiled.attempt record { options with stopsAtFailure := stops } now =
      compiled.attempt record options now := rfl

/-- Up to the first failure both evaluations try the same rules on the same records. -/
theorem results_attemptAll_stopping (rules : List CompiledRule) (record : Record) :
    (attemptAll { options with stopsAtFailure := true } now rules record).results =
      RuleResult.untilFailure
        (attemptAll { options with stopsAtFailure := false } now rules record).results := by
  induction rules generalizing record with
  | nil => rfl
  | cons compiled rest ih =>
    rw [attemptAll_cons, attemptAll_cons]
    simp only [result_stopping, attempt_stopping, Bool.true_and, Bool.false_and, Bool.false_eq_true, if_false]
    cases verdict : (compiled.result options now record).passed with
    | true =>
      -- The rule leaves one record to both evaluations, which go on with it.
      rw [RuleResult.untilFailure_cons_of_passed verdict, ← ih]
      rfl
    | false =>
      rw [RuleResult.untilFailure_cons_of_failed verdict]
      exact compiled.results_attempt options now record

end CompiledRule

/-- The counts and the status of a summary belong to its results. -/
structure Summary.Counted (summary : Summary) : Prop where
  total : summary.totalRules = summary.results.length
  passed : summary.passedRules = (summary.results.filter RuleResult.passed).length
  sum : summary.totalRules = summary.passedRules + summary.failedRules
  failed : summary.status = .failed ↔ 0 < summary.failedRules

theorem Summary.counted (summary : Summary) : summary.Counted where
  total := rfl
  passed := List.countP_eq_length_filter
  sum := summary.totalRules_eq
  failed := summary.status_eq_failed_iff

/-- How the summaries of two evaluations of one record by the same rules are related if only the second
evaluation stops at a failure. -/
structure Summary.CutAtFailure (rules : List CompiledRule) (record : Record) (now : Instant)
    (full stopped : Summary) : Prop where
  covers : full.results.map RuleResult.rule = rules.map CompiledRule.rule
  cut : stopped.results = RuleResult.untilFailure full.results
  fullCounted : full.Counted
  stoppedCounted : stopped.Counted
  status : stopped.status = full.status
  processed :
    stopped.processed = (RuleResult.passedActions stopped.results).foldl (Action.applied now) record

/-- A record can be evaluated both ways by the active rules of a snapshot. The evaluation that goes on has a
result for each rule, the one that stops has the same results up to and including the first failure, and
both come to one status; the record that the stopped one leaves is the record after the actions of exactly
the rules that passed in it. -/
theorem stopped_results_until_failure {snapshot : Snapshot} (someActive : snapshot.activeRules ≠ [])
    (record : Record) (options : Options) (now : Instant) :
    ∃ full stopped : Evaluation,
      evaluate snapshot.activeRules record { options with stopsAtFailure := false } now = .ok full ∧
        evaluate snapshot.activeRules record { options with stopsAtFailure := true } now = .ok stopped ∧
        Summary.CutAtFailure snapshot.activeRules record now full.summary stopped.summary := by
  obtain ⟨full, fullDone, fullResults, _⟩ :=
    exists_evaluate someActive record { options with stopsAtFailure := false } now
  obtain ⟨stopped, stoppedDone, stoppedResults, stoppedRecord⟩ :=
    exists_evaluate someActive record { options with stopsAtFailure := true } now
  have cut : stopped.summary.results = RuleResult.untilFailure full.summary.results := by
    rw [stoppedResults, fullResults, CompiledRule.results_attemptAll_stopping]
  have passes : stopped.summary.status = .passed ↔ full.summary.status = .passed := by
    rw [Summary.status_eq_passed_iff, Summary.status_eq_passed_iff, cut,
      RuleResult.all_passed_untilFailure_iff]
  refine ⟨full, stopped, fullDone, stoppedDone, ?_⟩
  constructor
  case covers => rw [fullResults, CompiledRule.map_rule_attemptAll _ now rfl]
  case cut => exact cut
  case fullCounted => exact full.summary.counted
  case stoppedCounted => exact stopped.summary.counted
  case status => exact Status.eq_of_passed_iff passes
  case processed => rw [stoppedRecord, stoppedResults, CompiledRule.record_attemptAll]

/-- A rule that asks for an approval of the records in which a field is there or not. -/
def approvalRule (id path : String) (operator : Operator) : Rule :=
  ⟨id, id, none, .approval, 5, true, [⟨.field path operator .null, .and⟩], [⟨.modify, []⟩], ⟨0, 0⟩, ⟨0, 0⟩⟩

/-- The first rule passes and sets the status, so that the second rule fails; the third one passes. -/
def chainedSnapshot : Snapshot :=
  ⟨"1", ⟨"chained", none, none, none⟩, ⟨0, 0⟩,
    [approvalRule "a" "amount" .exists, approvalRule "b" "status" .notExists,
      approvalRule "c" "amount" .exists].map (⟨·, [none]⟩)⟩

theorem chained_rules_stop_at_second :
    chainedSnapshot.activeRules ≠ [] ∧
      ∃ full stopped : Evaluation,
        evaluate chainedSnapshot.activeRules [("amount", .bool true)] ⟨false, false, true⟩ ⟨0, 0⟩ =
            .ok full ∧
          evaluate chainedSnapshot.activeRules [("amount", .bool true)] ⟨false, true, true⟩ ⟨0, 0⟩ =
            .ok stopped ∧
          Summary.CutAtFailure chainedSnapshot.activeRules [("amount", .bool true)] ⟨0, 0⟩ full.summary
            stopped.summary := by
  have someActive : chainedSnapshot.activeRules ≠ [] := List.cons_ne_nil _ _
  exact ⟨someActive, stopped_results_until_failure someActive _ ⟨false, true, true⟩ _⟩

example : (CompiledRule.attemptAll ⟨false, true, true⟩ ⟨0, 0⟩ chainedSnapshot.activeRules
    [("amount", .bool true)]).results.map RuleResult.passed = [true, false] := by decide +kernel

end Verdict
