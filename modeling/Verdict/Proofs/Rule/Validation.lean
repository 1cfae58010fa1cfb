import Verdict.Rule.Validation
import Verdict.Proofs.Outcome
/-!
What validation accepts. A rule set passes exactly when the set and each of its rules keep their
constraints, and a rule has the same constraints by itself as inside a set.
-/

namespace Verdict

open Expression (parse)
open FieldViolation (report)

/-- The constraints on a rule by itself. -/
structure Rule.WellFormed (rule : Rule) : Prop where
  named : rule.id ≠ ""
  titled : rule.name ≠ ""
  priority : 1 ≤ rule.priority ∧ rule.priority ≤ 10
  conditions : rule.conditions ≠ []
  actions : rule.actions ≠ []
  known : ∀ action ∈ rule.actions, action.kind ≠ .unknown
  parses : ∀ condition ∈ rule.conditions, ∀ source, condition.source? = some source →
    ∃ program, parse source = .ok program

/-- The constraints on a rule set. -/
structure RuleSet.WellFormed (ruleSet : RuleSet) : Prop where
  versioned : ruleSet.version ≠ ""
  titled : ruleSet.metadata.name ≠ ""
  distinct : (ruleSet.rules.map Rule.id).Nodup
  rules : ∀ rule ∈ ruleSet.rules, rule.WellFormed

namespace Validation

theorem report_eq_nil_iff {broken : Bool} {path : String} {violation : Violation} :
    report broken path violation = [] ↔ ¬broken = true := by
  cases broken <;> simp [report]

theorem fieldViolations_eq_nil_iff {above : String} {rule : Rule} :
    fieldViolations above rule = [] ↔ rule.id ≠ "" ∧ rule.name ≠ "" ∧
      (1 ≤ rule.priority ∧ rule.priority ≤ 10) ∧ rule.conditions ≠ [] ∧ rule.actions ≠ [] := by
  simp only [fieldViolations, List.append_eq_nil_iff, report_eq_nil_iff, isPriority,
    Bool.not_eq_true', Bool.not_eq_false, Bool.and_eq_true, decide_eq_true_eq, String.isEmpty_iff,
    List.isEmpty_iff, and_assoc, ne_eq]

theorem actionViolations_eq_nil_iff {path : String} {place : Nat} {actions : List Action} :
    actionViolations path place actions = [] ↔ ∀ action ∈ actions, action.kind ≠ .unknown := by
  induction actions generalizing place with
  | nil => simp [actionViolations]
  | cons action rest ih =>
    rw [actionViolations, List.append_eq_nil_iff, report_eq_nil_iff, ih, List.forall_mem_cons]
    simp

theorem rulesFieldViolations_eq_nil_iff {place : Nat} {rules : List Rule} :
    rulesFieldViolations place rules = [] ↔ ∀ rule ∈ rules, fieldViolations "" rule = [] := by
  induction rules generalizing place with
  | nil => simp [rulesFieldViolations]
  | cons rule rest ih =>
    rw [rulesFieldViolations, List.append_eq_nil_iff, ih, List.forall_mem_cons,
      fieldViolations_eq_nil_iff, fieldViolations_eq_nil_iff]

theorem rulesUseViolations_eq_nil_iff {earlier : List String} {place : Nat} {rules : List Rule} :
    rulesUseViolations earlier place rules = [] ↔
      (∀ rule ∈ rules, rule.id ∉ earlier) ∧ (rules.map Rule.id).Nodup ∧
        ∀ rule ∈ rules, ∀ action ∈ rule.actions, action.kind ≠ .unknown := by
  induction rules generalizing earlier place with
  | nil => simp [rulesUseViolations]
  | cons rule rest ih =>
    rw [rulesUseViolations, List.append_eq_nil_iff, List.append_eq_nil_iff, report_eq_nil_iff,
      actionViolations_eq_nil_iff, ih, List.map_cons, List.nodup_cons]
    constructor
    · intro clean
      obtain ⟨⟨fresh, known⟩, others, distinct, rest⟩ := clean
      refine ⟨?_, ⟨?_, distinct⟩, List.forall_mem_cons.2 ⟨known, rest⟩⟩
      · rw [List.forall_mem_cons]
        exact ⟨by simpa using fresh, fun other member => List.not_mem_of_not_mem_cons (others other member)⟩
      · intro repeated
        obtain ⟨other, member, same⟩ := List.mem_map.1 repeated
        exact others other member (same ▸ List.mem_cons_self)
    · intro sound
      obtain ⟨fresh, ⟨unrepeated, distinct⟩, known⟩ := sound
      refine ⟨⟨?_, known rule List.mem_cons_self⟩, ?_, distinct,
        fun other member => known other (List.mem_cons_of_mem _ member)⟩
      · simpa using fresh rule List.mem_cons_self
      · intro other member
        rw [List.mem_cons, not_or]
        exact ⟨fun same => unrepeated (same ▸ List.mem_map_of_mem member),
          fresh other (List.mem_cons_of_mem _ member)⟩

theorem require_eq_ok_iff {document : Document} {violations : List FieldViolation} :
    require document violations = .ok () ↔ violations = [] := by
  unfold require
  split
  next none => simpa using none
  next some => simpa using some

theorem requireParses_eq_ok_iff {ruleId : String} {conditions : List Condition} :
    requireParses ruleId conditions = .ok () ↔
      ∀ condition ∈ conditions, ∀ source, condition.source? = some source →
        ∃ program, parse source = .ok program := by
  induction conditions with
  | nil => simp [requireParses]
  | cons condition rest ih =>
    rw [requireParses, List.forall_mem_cons]
    split
    next absent => simp [absent, ih]
    next source present =>
      cases parsed : parse source with
      | error error => simp [present, parsed]
      | ok program => simp [present, parsed, ih]

theorem requireAllParse_eq_ok_iff {rules : List Rule} :
    requireAllParse rules = .ok () ↔ ∀ rule ∈ rules, requireParses rule.id rule.conditions = .ok () := by
  induction rules with
  | nil => simp [requireAllParse]
  | cons rule rest ih =>
    rw [requireAllParse, Outcome.check_bind_eq_ok_iff, ih, List.forall_mem_cons]

end Validation

open Validation

theorem Rule.wellFormed_iff {rule : Rule} : rule.WellFormed ↔ ruleViolations rule = [] ∧
    ∀ condition ∈ rule.conditions, ∀ source, condition.source? = some source →
      ∃ program, parse source = .ok program := by
  rw [ruleViolations, List.append_eq_nil_iff, fieldViolations_eq_nil_iff, actionViolations_eq_nil_iff]
  constructor
  · intro sound
    exact ⟨⟨⟨sound.named, sound.titled, sound.priority, sound.conditions, sound.actions⟩, sound.known⟩,
      sound.parses⟩
  · intro kept
    obtain ⟨⟨⟨named, titled, priority, conditions, actions⟩, known⟩, parses⟩ := kept
    exact ⟨named, titled, priority, conditions, actions, known, parses⟩

/-- A rule passes by itself exactly when it is well formed. -/
theorem Rule.validate_eq_ok_iff {rule : Rule} : rule.validate = .ok () ↔ rule.WellFormed := by
  rw [Rule.validate, Outcome.check_bind_eq_ok_iff, require_eq_ok_iff, requireParses_eq_ok_iff, wellFormed_iff]

theorem RuleSet.validate_eq_of_violations {ruleSet : RuleSet} (broken : setViolations ruleSet ≠ []) :
    ruleSet.validate = .error (.schema (.invalid .ruleSet (inOrder (setViolations ruleSet)))) := by
  rw [RuleSet.validate, require, if_neg (mt List.isEmpty_iff.1 broken)]
  rfl

/-- Expressions are looked at only when there is nothing else to complain of. -/
theorem RuleSet.validate_of_no_violations {ruleSet : RuleSet} (clean : setViolations ruleSet = []) :
    ruleSet.validate = requireAllParse ruleSet.rules := by
  rw [RuleSet.validate, require_eq_ok_iff.2 clean]
  rfl

/-- A rule set passes exactly when it is well formed: the constraints on its rules are those that each has
by itself. -/
theorem RuleSet.validate_eq_ok_iff {ruleSet : RuleSet} :
    ruleSet.validate = .ok () ↔ ruleSet.WellFormed := by
  rw [RuleSet.validate, Outcome.check_bind_eq_ok_iff, require_eq_ok_iff, requireAllParse_eq_ok_iff,
    setViolations]
  simp only [List.append_eq_nil_iff, report_eq_nil_iff, rulesFieldViolations_eq_nil_iff,
    rulesUseViolations_eq_nil_iff, fieldViolations_eq_nil_iff, requireParses_eq_ok_iff]
  constructor
  · intro passed
    obtain ⟨⟨⟨⟨version, title⟩, fields⟩, _, distinct, known⟩, parses⟩ := passed
    refine ⟨by simpa using version, by simpa using title, distinct, fun rule member => ?_⟩
    obtain ⟨named, titled, priority, conditions, actions⟩ := fields rule member
    exact ⟨named, titled, priority, conditions, actions, known rule member, parses rule member⟩
  · intro sound
    refine ⟨⟨⟨⟨by simpa using sound.versioned, by simpa using sound.titled⟩, fun rule member => ?_⟩,
      by simp, sound.distinct, fun rule member => (sound.rules rule member).known⟩,
      fun rule member => (sound.rules rule member).parses⟩
    have kept := sound.rules rule member
    exact ⟨kept.named, kept.titled, kept.priority, kept.conditions, kept.actions⟩

end Verdict
