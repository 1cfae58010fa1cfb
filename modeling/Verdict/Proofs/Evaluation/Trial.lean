import Verdict.Evaluation.Summary
/-!
What trying rules comes to. Every rule that is tried gives one result, and the record that rules leave is
the first one after the actions of the rules that passed, in their order; failed rules leave no trace in it.
So a whole evaluation can be replayed from its results: each is what its rule comes to on the record that the
results before it tell.
-/

namespace Verdict

open Time (Instant)

/-- A record after an action; an action without effect leaves it as it is. -/
def Action.applied (now : Instant) (record : Record) (action : Action) : Record :=
  (action.perform? record now).getD record

/-- The record that the actions of a rule leave is the record after each of them in turn. -/
theorem Rule.record_perform (rule : Rule) (now : Instant) (actions : List Action) (record : Record) :
    (rule.perform now actions record).record = actions.foldl (Action.applied now) record := by
  induction actions generalizing record with
  | nil => rfl
  | cons action rest ih =>
    rw [List.foldl_cons, Rule.perform]
    cases outcome : action.perform? record now with
    | none => simp only [Action.applied, outcome, Option.getD_none, ih]
    | some changed => simp only [Action.applied, outcome, Option.getD_some, ih]

theorem Rule.record_effect (rule : Rule) (record : Record) (now : Instant) :
    (rule.effect record now).record = rule.actions.foldl (Action.applied now) record :=
  rule.record_perform now rule.actions record

/-- Each condition is evaluated with the program in its place. -/
theorem Condition.getElem?_evaluateAll (record : Record) (strict : Bool) (now : Instant)
    (conditions : List Condition) (programs : List (Option Expr)) (index : Nat) :
    (evaluateAll record strict now conditions programs)[index]? =
      conditions[index]?.map (fun condition =>
        condition.evaluate record programs[index]?.join strict now) := by
  induction conditions generalizing programs index with
  | nil => rfl
  | cons condition rest ih =>
    cases index with
    | zero => cases programs <;> rfl
    | succ index =>
      have tail : programs.tail[index]? = programs[index + 1]? := by cases programs <;> rfl
      rw [evaluateAll, List.getElem?_cons_succ, List.getElem?_cons_succ, ih, tail]

/-- The stored program of the condition at a place. -/
def CompiledRule.program? (compiled : CompiledRule) (index : Nat) : Option Expr :=
  compiled.programs[index]?.join

theorem CompiledRule.getElem?_conditionResults (compiled : CompiledRule) (record : Record)
    (strict : Bool) (now : Instant) (index : Nat) :
    (compiled.conditionResults record strict now)[index]? =
      compiled.rule.conditions[index]?.map (fun condition =>
        condition.evaluate record (compiled.program? index) strict now) :=
  Condition.getElem?_evaluateAll record strict now _ _ index

namespace RuleResult

/-- The actions of the rules that passed, rule by rule. -/
def passedActions (results : List RuleResult) : List Action :=
  (results.filter RuleResult.passed).flatMap (fun result => result.rule.actions)

theorem passedActions_cons (result : RuleResult) (rest : List RuleResult) :
    passedActions (result :: rest) = passedActions [result] ++ passedActions rest := by
  rw [passedActions, ← List.singleton_append, List.filter_append, List.flatMap_append]
  rfl

theorem passedActions_singleton (result : RuleResult) :
    passedActions [result] = if result.passed then result.rule.actions else [] := by
  cases verdict : result.passed <;> simp [passedActions, verdict]

end RuleResult

/-- The record after the actions of those rules that passed. -/
def RuleResult.recordAfter (now : Instant) (record : Record) (results : List RuleResult) : Record :=
  (passedActions results).foldl (Action.applied now) record

theorem RuleResult.recordAfter_cons (now : Instant) (record : Record) (first : RuleResult)
    (rest : List RuleResult) :
    recordAfter now record (first :: rest) = recordAfter now (recordAfter now record [first]) rest := by
  rw [recordAfter, recordAfter, recordAfter, passedActions_cons, List.foldl_append]

namespace CompiledRule

variable (options : Options) (now : Instant)

/-- What a rule comes to on a record. -/
def result (compiled : CompiledRule) (record : Record) : RuleResult :=
  let conditions := compiled.conditionResults record options.strict now
  ⟨compiled.rule, compiled.verdict conditions, if options.keepsConditions then some conditions else none, now⟩

theorem attempt_of_passed {compiled : CompiledRule} {record : Record}
    (passed : (compiled.result options now record).passed = true) :
    compiled.attempt record options now =
      ⟨[compiled.result options now record], (compiled.rule.effect record now).record,
        (compiled.rule.effect record now).notifications⟩ :=
  if_pos passed

theorem attempt_of_failed {compiled : CompiledRule} {record : Record}
    (failed : (compiled.result options now record).passed = false) :
    compiled.attempt record options now = ⟨[compiled.result options now record], record, []⟩ :=
  if_neg (Bool.eq_false_iff.1 failed)

theorem results_attempt (compiled : CompiledRule) (record : Record) :
    (compiled.attempt record options now).results = [compiled.result options now record] := by
  cases verdict : (compiled.result options now record).passed with
  | true => rw [attempt_of_passed options now verdict]
  | false => rw [attempt_of_failed options now verdict]

/-- Trying one rule leaves the record after its actions if it passed. -/
theorem record_attempt (compiled : CompiledRule) (record : Record) :
    (compiled.attempt record options now).record =
      RuleResult.recordAfter now record [compiled.result options now record] := by
  rw [RuleResult.recordAfter, RuleResult.passedActions_singleton]
  cases verdict : (compiled.result options now record).passed with
  | true =>
    rw [attempt_of_passed options now verdict, if_pos rfl]
    exact compiled.rule.record_effect record now
  | false =>
    rw [attempt_of_failed options now verdict, if_neg Bool.false_ne_true]
    rfl

/-- After a rule with its result, either evaluation stops there or the other rules follow. -/
theorem attemptAll_cons (compiled : CompiledRule) (rest : List CompiledRule) (record : Record) :
    attemptAll options now (compiled :: rest) record =
      let trial := compiled.attempt record options now
      let later := attemptAll options now rest trial.record
      if options.stopsAtFailure && !(compiled.result options now record).passed then trial
      else
        ⟨compiled.result options now record :: later.results, later.record,
          trial.notifications ++ later.notifications⟩ := by
  rw [attemptAll, results_attempt, List.all_cons, List.all_nil, Bool.and_true]
  rfl

/-- The record that rules leave is the record after the actions of those that passed. -/
theorem record_attemptAll (rules : List CompiledRule) (record : Record) :
    (attemptAll options now rules record).record =
      (RuleResult.passedActions (attemptAll options now rules record).results).foldl
        (Action.applied now) record := by
  change _ = RuleResult.recordAfter now record _
  induction rules generalizing record with
  | nil => rfl
  | cons compiled rest ih =>
    rw [attemptAll_cons]
    by_cases stops : (options.stopsAtFailure && !(compiled.result options now record).passed) = true
    · simp only [stops, if_true]
      rw [results_attempt, record_attempt]
    · simp only [stops, Bool.false_eq_true, if_false]
      rw [ih, record_attempt, ← RuleResult.recordAfter_cons]

/-- Unless evaluation stops at a failure, every rule has its result. -/
theorem map_rule_attemptAll (goesOn : options.stopsAtFailure = false) (rules : List CompiledRule)
    (record : Record) :
    (attemptAll options now rules record).results.map RuleResult.rule = rules.map rule := by
  induction rules generalizing record with
  | nil => rfl
  | cons compiled rest ih =>
    rw [attemptAll_cons]
    simp only [goesOn, Bool.false_and, Bool.false_eq_true, if_false, List.map_cons, ih]
    rfl

/-- Every result is that of the rule in its place, tried on the record that the results before it tell. -/
theorem getElem?_results_attemptAll {rules : List CompiledRule} {record : Record} {index : Nat}
    {found : RuleResult} (listed : (attemptAll options now rules record).results[index]? = some found) :
    ∃ compiled, rules[index]? = some compiled ∧
      found = compiled.result options now
        (RuleResult.recordAfter now record ((attemptAll options now rules record).results.take index)) := by
  induction rules generalizing record index with
  | nil => cases listed
  | cons compiled rest ih =>
    rw [attemptAll_cons] at listed ⊢
    by_cases stops : (options.stopsAtFailure && !(compiled.result options now record).passed) = true
    · simp only [stops, if_true, results_attempt] at listed ⊢
      cases index with
      | zero => exact ⟨compiled, rfl, (Option.some.inj listed).symm⟩
      | succ index => cases listed
    · simp only [stops, Bool.false_eq_true, if_false, record_attempt] at listed ⊢
      cases index with
      | zero => exact ⟨compiled, rfl, (Option.some.inj listed).symm⟩
      | succ index =>
        obtain ⟨later, place, same⟩ := ih listed
        refine ⟨later, place, ?_⟩
        rw [same, List.take_succ_cons]
        exact congrArg (later.result options now) (RuleResult.recordAfter_cons now record _ _).symm

theorem exists_of_mem_results_attemptAll {rules : List CompiledRule} {record : Record}
    {found : RuleResult} (listed : found ∈ (attemptAll options now rules record).results) :
    ∃ (compiled : CompiledRule) (before : Record), found = compiled.result options now before := by
  obtain ⟨index, inRange, rfl⟩ := List.getElem_of_mem listed
  obtain ⟨compiled, _, same⟩ :=
    getElem?_results_attemptAll options now (List.getElem?_eq_getElem inRange)
  exact ⟨compiled, _, same⟩

end CompiledRule

/-- What a trial of rules is told as. -/
def Trial.evaluation (trial : Trial) (now : Instant) : Evaluation :=
  ⟨⟨trial.results, now, trial.record⟩, trial.notifications⟩

/-- An evaluation needs a rule, and then it tells what trying the rules comes to. -/
theorem evaluate_eq_ok_iff {rules : List CompiledRule} {record : Record} {options : Options} {now : Instant}
    {evaluation : Evaluation} :
    evaluate rules record options now = .ok evaluation ↔
      rules ≠ [] ∧ evaluation = (CompiledRule.attemptAll options now rules record).evaluation now := by
  cases rules with
  | nil =>
    constructor
    · intro impossible
      cases impossible
    · intro reached
      exact absurd rfl reached.1
  | cons compiled rest =>
    constructor
    · intro success
      exact ⟨List.cons_ne_nil compiled rest, (Except.ok.inj success).symm⟩
    · intro reached
      rw [reached.2]
      rfl

/-- With an active rule an evaluation succeeds, and its summary is what trying the rules comes to. -/
theorem exists_evaluate {rules : List CompiledRule} (someRule : rules ≠ []) (record : Record)
    (options : Options) (now : Instant) :
    ∃ evaluation, evaluate rules record options now = .ok evaluation ∧
      evaluation.summary.results = (CompiledRule.attemptAll options now rules record).results ∧
      evaluation.summary.processed = (CompiledRule.attemptAll options now rules record).record :=
  ⟨_, evaluate_eq_ok_iff.2 ⟨someRule, rfl⟩, rfl, rfl⟩

/-- There are only two statuses. -/
theorem Status.eq_of_passed_iff {first second : Status} (same : first = .passed ↔ second = .passed) :
    first = second := by
  cases first <;> cases second <;> simp_all

namespace Summary

theorem passedRules_le (summary : Summary) : summary.passedRules ≤ summary.totalRules :=
  List.countP_le_length

theorem totalRules_eq (summary : Summary) :
    summary.totalRules = summary.passedRules + summary.failedRules := by
  have bound := summary.passedRules_le
  rw [failedRules]
  omega

/-- The failed rules are those whose result did not pass. -/
theorem failedRules_eq_countP (summary : Summary) :
    summary.failedRules = summary.results.countP (fun result => !result.passed) := by
  have whole := List.length_eq_countP_add_countP RuleResult.passed (l := summary.results)
  simp only [failedRules, totalRules, passedRules]
  simp only [Bool.not_eq_true, Bool.decide_eq_false] at whole
  omega

theorem status_eq_failed_iff (summary : Summary) :
    summary.status = .failed ↔ 0 < summary.failedRules := by
  rw [status, Status.of]
  split
  next none => simp at none; simp [none]
  next some => simp at some; simp; omega

theorem status_eq_passed_iff (summary : Summary) :
    summary.status = .passed ↔ ∀ result ∈ summary.results, result.passed = true := by
  have failed : summary.failedRules = 0 ↔ ∀ result ∈ summary.results, result.passed = true := by
    rw [failedRules_eq_countP, List.countP_eq_zero]
    simp
  rw [← failed, status, Status.of]
  split
  next none => simpa using none
  next some => simpa using some

end Summary

end Verdict
