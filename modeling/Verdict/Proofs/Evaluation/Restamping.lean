import Verdict.Proofs.Evaluation.Trial
/-!
The times of last changes. No evaluation looks at the time at which a rule was changed last: with another time every
rule comes to the same, and what is told of the evaluation does not mention it.
-/

namespace Verdict

open Time (Instant)

variable (id : String) (moment : Instant)

/-- A rule with another time of its last change, if it has a certain name. -/
def Rule.restamped (rule : Rule) : Rule :=
  { rule with updatedAt := if rule.id = id then moment else rule.updatedAt }

/-- A compiled rule with another time of its last change, if it has a certain name. -/
def CompiledRule.restamped (compiled : CompiledRule) : CompiledRule :=
  { compiled with rule := compiled.rule.restamped id moment }

/-- A result with another time of the last change of its rule, if that has a certain name. -/
def RuleResult.restamped (result : RuleResult) : RuleResult :=
  { result with rule := result.rule.restamped id moment }

/-- A trial with another time of the last change of the rule of a name. -/
def Trial.restamped (trial : Trial) : Trial :=
  { trial with results := trial.results.map (RuleResult.restamped id moment) }

/-- A summary with another time of the last change of the rule of a name. -/
def Summary.restamped (summary : Summary) : Summary :=
  { summary with results := summary.results.map (RuleResult.restamped id moment) }

/-- An evaluation with another time of the last change of the rule of a name. -/
def Evaluation.restamped (evaluation : Evaluation) : Evaluation :=
  { evaluation with summary := evaluation.summary.restamped id moment }

theorem Rule.perform_restamped (rule : Rule) (now : Instant) (actions : List Action) (record : Record) :
    (rule.restamped id moment).perform now actions record = rule.perform now actions record := by
  induction actions generalizing record with
  | nil => rfl
  | cons action rest ih =>
    simp only [perform, ih]
    rfl

namespace CompiledRule

variable (options : Options) (now : Instant)

theorem result_restamped (compiled : CompiledRule) (record : Record) :
    (compiled.restamped id moment).result options now record =
      (compiled.result options now record).restamped id moment :=
  rfl

theorem attempt_restamped (compiled : CompiledRule) (record : Record) :
    (compiled.restamped id moment).attempt record options now =
      (compiled.attempt record options now).restamped id moment := by
  have effect : (compiled.restamped id moment).rule.effect record now = compiled.rule.effect record now :=
    compiled.rule.perform_restamped id moment now _ record
  cases verdict : (compiled.result options now record).passed with
  | true =>
    have again : ((compiled.restamped id moment).result options now record).passed = true := verdict
    rw [attempt_of_passed options now again, attempt_of_passed options now verdict, effect]
    rfl
  | false =>
    have again : ((compiled.restamped id moment).result options now record).passed = false := verdict
    rw [attempt_of_failed options now again, attempt_of_failed options now verdict]
    rfl

/-- No rule looks at the time of a last change, neither its own nor that of another rule. -/
theorem attemptAll_restamped (rules : List CompiledRule) (record : Record) :
    attemptAll options now (rules.map (restamped id moment)) record =
      (attemptAll options now rules record).restamped id moment := by
  induction rules generalizing record with
  | nil => rfl
  | cons compiled rest ih =>
    rw [List.map_cons, attemptAll_cons, attemptAll_cons, attempt_restamped, result_restamped]
    have verdict : ((compiled.result options now record).restamped id moment).passed =
        (compiled.result options now record).passed := rfl
    have left : ((compiled.attempt record options now).restamped id moment).record =
        (compiled.attempt record options now).record := rfl
    simp only [verdict, left, ih]
    split
    · rfl
    · rfl

end CompiledRule

theorem evaluate_restamped (rules : List CompiledRule) (record : Record) (options : Options) (now : Instant) :
    evaluate (rules.map (CompiledRule.restamped id moment)) record options now =
      (evaluate rules record options now).map (Evaluation.restamped id moment) := by
  cases rules with
  | nil => rfl
  | cons compiled rest =>
    rw [evaluate, evaluate, CompiledRule.attemptAll_restamped]
    rfl

/-- A summary is written without the times of last changes. -/
theorem Summary.toJson_restamped (summary : Summary) : (summary.restamped id moment).toJson = summary.toJson := by
  have results : (summary.restamped id moment).results.map RuleResult.toJson =
      summary.results.map RuleResult.toJson := by
    rw [restamped, List.map_map]
    rfl
  have total : (summary.restamped id moment).totalRules = summary.totalRules := List.length_map _
  have passed : (summary.restamped id moment).passedRules = summary.passedRules := by
    rw [passedRules, restamped, List.countP_map]
    rfl
  have failed : (summary.restamped id moment).failedRules = summary.failedRules := by
    rw [failedRules, total, passed, failedRules]
  have recommended : (summary.restamped id moment).recommendations = summary.recommendations := by
    rw [recommendations, restamped, List.flatMap_map]
    rfl
  rw [toJson, toJson, fields, fields, status, status, results, total, passed, failed, recommended]
  rfl

/-- What an evaluation tells: its summary as it is written, and the notifications. -/
def Evaluation.told (evaluation : Evaluation) : Json × List Notification :=
  (evaluation.summary.toJson, evaluation.notifications)

theorem Evaluation.told_restamped (evaluation : Evaluation) :
    (evaluation.restamped id moment).told = evaluation.told := by
  rw [told, restamped, Summary.toJson_restamped]
  rfl

end Verdict
