import Mathlib
import Verdict.Proofs.Evaluation.Trial
import Verdict.Proofs.Store.Invariant
/-!
Stored programs. A snapshot keeps the parsed expressions of a rule in a list of their own beside its
conditions, and makes this list anew only when the rule is saved or updated. Whatever changes led to a
snapshot, the two lists belong together item by item: a stored condition gives the result that it gives when
its source is parsed on the spot, and its source parses.
-/

namespace Verdict

open Expression (parse)
open Time (Instant)

namespace Condition

/-- The program that belongs to a condition: nothing for the test of a field, and what its source parses to
for an expression. -/
inductive Compiled : Condition → Option Expr → Prop where
  | field (path : String) (operator : Operator) (expected : Json) (connective : Connective) :
    Compiled ⟨.field path operator expected, connective⟩ none
  | expression {source : String} {program : Expr} (parsed : parse source = .ok program)
    (connective : Connective) : Compiled ⟨.expression source, connective⟩ (some program)

theorem forall₂_compiled_of_compileAll {conditions : List Condition} {programs : List (Option Expr)}
    (success : compileAll conditions = .ok programs) : List.Forall₂ Compiled conditions programs := by
  induction conditions generalizing programs with
  | nil =>
    cases success
    exact .nil
  | cons condition rest ih =>
    obtain ⟨test, connective⟩ := condition
    cases test with
    | field path operator expected =>
      obtain ⟨later, compiled, rfl⟩ := Outcome.map_eq_ok_iff.1 success
      exact .cons (.field path operator expected connective) (ih compiled)
    | expression source =>
      cases parsed : parse source with
      | error error => simp [compileAll, source?, parsed] at success
      | ok program =>
        simp only [compileAll, source?, parsed] at success
        obtain ⟨later, compiled, rfl⟩ := Outcome.map_eq_ok_iff.1 success
        exact .cons (.expression parsed connective) (ih compiled)

theorem compileAll_of_compiled {conditions : List Condition} {programs : List (Option Expr)}
    (belongs : List.Forall₂ Compiled conditions programs) : compileAll conditions = .ok programs := by
  induction belongs with
  | nil => rfl
  | cons first _ ih =>
    cases first with
    | field path operator expected connective => simp only [compileAll, source?, ih, Except.map]
    | expression parsed connective => simp only [compileAll, source?, parsed, ih, Except.map]

theorem numberFault_ne_badExpression (path : String) (actual : Option Json) (expected : Json)
    (error : Expression.SyntaxError) : numberFault path actual expected ≠ some (.badExpression error) := by
  unfold numberFault
  repeat' split
  all_goals simp

namespace Compiled

variable {condition : Condition} {program : Option Expr}

/-- A program that belongs to a condition makes no difference to its result. -/
theorem evaluate_eq (compiled : Compiled condition program) (record : Record) (strict : Bool)
    (now : Instant) :
    condition.evaluate record program strict now = condition.evaluate record none strict now := by
  cases compiled with
  | field path operator expected connective => rfl
  | expression parsed connective => simp only [evaluate, parsed]

/-- A condition with its program never fails for want of a parsed expression. -/
theorem fault_ne_badExpression (compiled : Compiled condition program) (record : Record) (strict : Bool)
    (now : Instant) (error : Expression.SyntaxError) :
    (condition.evaluate record program strict now).fault ≠ some (.badExpression error) := by
  cases compiled with
  | expression parsed connective => simp [evaluate, expressionResult]
  | field path operator expected connective =>
    by_cases empty : path.isEmpty = true
    · simp [evaluate, fieldResult, empty, ConditionResult.failed]
    · by_cases ordering : (strict && operator.isNumeric) = true
      · simp only [evaluate, fieldResult, empty, ordering, if_true]
        exact numberFault_ne_badExpression path _ expected error
      · simp [evaluate, fieldResult, empty, ordering]

end Compiled

end Condition

/-- A rule each of whose conditions has its program in its place. -/
def CompiledRule.Aligned (compiled : CompiledRule) : Prop :=
  List.Forall₂ Condition.Compiled compiled.rule.conditions compiled.programs

namespace CompiledRule

theorem aligned_of_compile {rule : Rule} {compiled : CompiledRule} (success : compile rule = .ok compiled) :
    compiled.Aligned := by
  obtain ⟨programs, parsed, rfl⟩ := Outcome.map_eq_ok_iff.1 success
  exact Condition.forall₂_compiled_of_compileAll parsed

theorem aligned_of_compileAll {rules : List Rule} {all : List CompiledRule}
    (success : compileAll rules = .ok all) : ∀ compiled ∈ all, compiled.Aligned := by
  induction rules generalizing all with
  | nil =>
    cases success
    simp
  | cons rule rest ih =>
    obtain ⟨compiled, others, first, later, rfl⟩ := compileAll_cons_eq_ok_iff.1 success
    exact List.forall_mem_cons.2 ⟨aligned_of_compile first, ih later⟩

/-- Compiling a rule of the same conditions again gives the programs that are stored. -/
theorem Aligned.compile_eq {compiled : CompiledRule} (aligned : compiled.Aligned) {rule : Rule}
    (same : rule.conditions = compiled.rule.conditions) : compile rule = .ok ⟨rule, compiled.programs⟩ := by
  rw [compile, same, Condition.compileAll_of_compiled aligned]
  rfl

theorem Aligned.compiled_program? {compiled : CompiledRule} (aligned : compiled.Aligned) {index : Nat}
    {condition : Condition} (found : compiled.rule.conditions[index]? = some condition) :
    condition.Compiled (compiled.program? index) := by
  obtain ⟨inRange, rfl⟩ := List.getElem?_eq_some_iff.1 found
  have inPrograms : index < compiled.programs.length := List.Forall₂.length_eq aligned ▸ inRange
  have belongs := List.Forall₂.get aligned inRange inPrograms
  rw [program?, List.getElem?_eq_getElem inPrograms]
  exact belongs

end CompiledRule

namespace Snapshot

theorem mem_replaceFirst {id : String} {replacement compiled : CompiledRule} {rules : List CompiledRule}
    (member : compiled ∈ replaceFirst id replacement rules) : compiled = replacement ∨ compiled ∈ rules := by
  induction rules with
  | nil => cases member
  | cons first rest ih =>
    rw [replaceFirst] at member
    by_cases named : (first.rule.id == id) = true
    · rw [if_pos named, List.mem_cons] at member
      exact member.imp_right (List.mem_cons_of_mem first)
    · rw [if_neg named, List.mem_cons] at member
      rcases member with same | later
      · exact .inr (same ▸ List.mem_cons_self)
      · exact (ih later).imp_right (List.mem_cons_of_mem first)

/-- A snapshot all of whose rules have their programs in their places. -/
def Aligned (snapshot : Snapshot) : Prop :=
  ∀ compiled ∈ snapshot.rules, compiled.Aligned

theorem aligned_of_ofRuleSet {ruleSet : RuleSet} {now : Instant} {snapshot : Snapshot}
    (success : ofRuleSet ruleSet now = .ok snapshot) : snapshot.Aligned := by
  rw [ofRuleSet, Outcome.check_bind_eq_ok_iff, Outcome.bind_eq_ok_iff] at success
  obtain ⟨_, rules, compiles, same⟩ := success
  cases same
  intro compiled member
  exact CompiledRule.aligned_of_compileAll compiles compiled (List.mem_mergeSort.1 member)

/-- Only the updated rule is compiled again; the others move with their programs. -/
theorem aligned_of_update {before after : Snapshot} {id : String} {patch : RulePatch} {now : Instant}
    {rule : Rule} (aligned : before.Aligned) (success : before.update id patch now = .ok (rule, after)) :
    after.Aligned := by
  obtain ⟨old, replacement, _, _, _, compiles, rfl⟩ := update_eq_ok_iff.1 success
  intro compiled member
  rcases mem_replaceFirst (List.mem_mergeSort.1 member) with rfl | untouched
  · exact CompiledRule.aligned_of_compile compiles
  · exact aligned compiled untouched

theorem aligned_of_delete {before after : Snapshot} {id : String} {now : Instant} {rule : Rule}
    (aligned : before.Aligned) (success : before.delete id now = .ok (rule, after)) : after.Aligned := by
  obtain ⟨_, rfl⟩ := delete_eq_ok_iff.1 success
  exact fun compiled member => aligned compiled (List.mem_of_mem_eraseP member)

end Snapshot

namespace Store

theorem invariant_aligned : Invariant Snapshot.Aligned where
  saved := Snapshot.aligned_of_ofRuleSet
  updated := Snapshot.aligned_of_update
  deleted := Snapshot.aligned_of_delete

/-- After any changes, every stored rule has a program for each of its conditions and none besides. With its
stored program a condition gives the same result as without, the evaluation of the rule lists just these
results, and none of them says that an expression could not be parsed. -/
theorem stored_programs_stand_for_parsing {store : Store} (reachable : store.Reachable)
    {snapshot : Snapshot} (present : store.snapshot = some snapshot) {compiled : CompiledRule}
    (member : compiled ∈ snapshot.rules) :
    compiled.programs.length = compiled.rule.conditions.length ∧
      ∀ (index : Nat) (condition : Condition), compiled.rule.conditions[index]? = some condition →
        condition.Compiled (compiled.program? index) ∧
          ∀ (record : Record) (strict : Bool) (now : Instant),
            condition.evaluate record (compiled.program? index) strict now =
                condition.evaluate record none strict now ∧
              (compiled.conditionResults record strict now)[index]? =
                some (condition.evaluate record none strict now) ∧
              ∀ error, (condition.evaluate record none strict now).fault ≠ some (.badExpression error) := by
  have aligned : compiled.Aligned := invariant_aligned.reachable reachable present compiled member
  refine ⟨(List.Forall₂.length_eq aligned).symm, fun index condition found => ?_⟩
  have belongs := aligned.compiled_program? found
  refine ⟨belongs, fun record strict now => ?_⟩
  have unchanged := belongs.evaluate_eq record strict now
  refine ⟨unchanged, ?_, fun error => ?_⟩
  · rw [compiled.getElem?_conditionResults, found, Option.map_some, unchanged]
  · rw [← unchanged]
    exact belongs.fault_ne_badExpression record strict now error

/-- A rule is saved behind another one and then updated to two other conditions and a smaller priority; the
other rule is deleted. -/
def recompiledChanges : List (Change × Instant) :=
  [(.save ⟨"1", ⟨"delivery", none, none, none⟩,
      [amountRule "a" 1,
        { amountRule "b" 2 with conditions := [⟨.expression "approved", .and⟩] }]⟩, ⟨0, 0⟩),
    (.update "b"
      { priorityPatch 1 with
        conditions := some [⟨.field "amount" .exists .null, .or⟩, ⟨.expression "approved == true", .and⟩] },
      ⟨1, 0⟩),
    (.delete "a", ⟨2, 0⟩)]

theorem recompiled_rule_aligned :
    (empty.afterAll recompiledChanges).Reachable ∧
      ∃ snapshot compiled, (empty.afterAll recompiledChanges).snapshot = some snapshot ∧
        compiled ∈ snapshot.rules ∧ compiled.rule.conditions.length = 2 ∧
          compiled.programs.length = compiled.rule.conditions.length ∧
            ∀ (index : Nat) (condition : Condition), compiled.rule.conditions[index]? = some condition →
              condition.Compiled (compiled.program? index) ∧
                ∀ (record : Record) (strict : Bool) (now : Instant),
                  condition.evaluate record (compiled.program? index) strict now =
                      condition.evaluate record none strict now ∧
                    (compiled.conditionResults record strict now)[index]? =
                      some (condition.evaluate record none strict now) ∧
                    ∀ error, (condition.evaluate record none strict now).fault ≠
                      some (.badExpression error) := by
  have left : (empty.afterAll recompiledChanges).snapshot.map
      (fun snapshot => snapshot.rules.map (fun compiled => compiled.rule.conditions.length)) =
        some [2] := by cbv
  obtain ⟨snapshot, present, lengths⟩ := Option.map_eq_some_iff.1 left
  obtain ⟨compiled, single, two⟩ := List.map_eq_singleton_iff.1 lengths
  have member : compiled ∈ snapshot.rules := by
    rw [single]
    exact List.mem_singleton_self compiled
  have reachable : (empty.afterAll recompiledChanges).Reachable := ⟨recompiledChanges, rfl⟩
  exact ⟨reachable, snapshot, compiled, present, member, two,
    stored_programs_stand_for_parsing reachable present member⟩

end Store

end Verdict
