import Verdict.Proofs.Rule.Shape
/-!
What a patch makes of a rule. A patch that was accepted keeps the constraints on a rule in the parts that it
names, so a well-formed rule stays well formed under it exactly if the expressions that it brings in parse.
-/

namespace Verdict

open Expression (parse)
open Time (Instant)
open Validation

namespace RulePatch

/-- The constraints on the parts that a patch names. -/
structure WellFormed (patch : RulePatch) : Prop where
  titled : ∀ name, patch.name = some name → name ≠ ""
  priority : ∀ priority, patch.priority = some priority → 1 ≤ priority ∧ priority ≤ 10
  conditions : ∀ conditions, patch.conditions = some conditions → conditions ≠ []
  actions : ∀ actions, patch.actions = some actions → actions ≠ []
  known : ∀ actions, patch.actions = some actions → ∀ action ∈ actions, action.kind ≠ .unknown

/-- Every expression that a patch brings in parses. -/
def Parses (patch : RulePatch) : Prop :=
  ∀ conditions, patch.conditions = some conditions →
    ∀ condition ∈ conditions, ∀ source, condition.source? = some source →
      ∃ program, parse source = .ok program

theorem patchViolations_eq_nil_iff {patch : RulePatch} :
    patchViolations patch = [] ↔ patch.WellFormed := by
  have actions : patch.actions.elim [] (actionViolations "actions" 0) = [] ↔
      ∀ actions, patch.actions = some actions → ∀ action ∈ actions, action.kind ≠ .unknown := by
    cases patch.actions with
    | none => simp
    | some actions => simp [actionViolations_eq_nil_iff]
  rw [patchViolations, List.append_eq_nil_iff, actions]
  simp only [List.append_eq_nil_iff, report_eq_nil_iff, isPriority, Option.any_eq_true, Option.all_eq_true,
    Bool.not_eq_true', Bool.not_eq_false, Bool.and_eq_true, decide_eq_true_eq, String.isEmpty_iff,
    List.isEmpty_iff, not_exists, not_and]
  constructor
  · intro clean
    obtain ⟨⟨⟨⟨titled, priority⟩, conditions⟩, actions⟩, known⟩ := clean
    exact ⟨titled, priority, conditions, actions, known⟩
  · intro kept
    exact ⟨⟨⟨⟨kept.titled, kept.priority⟩, kept.conditions⟩, kept.actions⟩, kept.known⟩

theorem wellFormed_of_accept {payload : Json} {patch : RulePatch} (success : accept payload = .ok patch) :
    patch.WellFormed := by
  unfold accept at success
  split at success
  next => cases success
  next =>
    rw [Outcome.check_bind_eq_ok_iff, Outcome.bind_eq_ok_iff] at success
    obtain ⟨_, read, _, success⟩ := success
    obtain ⟨valid, same⟩ := Outcome.check_bind_eq_ok_iff.1 success
    split at same
    · cases same
    · cases same
      exact patchViolations_eq_nil_iff.1 (require_eq_ok_iff.1 valid)
  next => cases success

/-- What holds of a part of a rule and of the part that a patch names in its place, holds after the patch. -/
theorem named_or_old {α : Type} {motive : α → Prop} {named : Option α} {old : α} (before : motive old)
    (changed : ∀ value, named = some value → motive value) : motive (named.getD old) := by
  cases named with
  | none => exact before
  | some value => exact changed value rfl

end RulePatch

open RulePatch (named_or_old)

namespace Rule

variable {rule : Rule} {patch : RulePatch} (wellFormed : rule.WellFormed) (kept : patch.WellFormed)
  (now : Instant)

include wellFormed kept

/-- A patch that keeps its constraints breaks none of a rule: each part is the one that the patch names or the
old one. -/
theorem ruleViolations_patched : ruleViolations (rule.patched patch now) = [] := by
  rw [ruleViolations, List.append_eq_nil_iff, fieldViolations_eq_nil_iff, actionViolations_eq_nil_iff]
  refine ⟨⟨?named, ?titled, ?priority, ?conditions, ?actions⟩, ?known⟩
  case named => exact wellFormed.named
  case titled => exact named_or_old (motive := (· ≠ "")) wellFormed.titled kept.titled
  case priority =>
    exact named_or_old (motive := fun priority => 1 ≤ priority ∧ priority ≤ 10) wellFormed.priority
      kept.priority
  case conditions => exact named_or_old (motive := (· ≠ [])) wellFormed.conditions kept.conditions
  case actions => exact named_or_old (motive := (· ≠ [])) wellFormed.actions kept.actions
  case known =>
    exact named_or_old (motive := fun actions : List Action => ∀ action ∈ actions, action.kind ≠ .unknown)
      wellFormed.known kept.known

/-- So all that is left to check of a patched rule is that its expressions parse. -/
theorem validate_patched :
    (rule.patched patch now).validate = requireParses rule.id (rule.patched patch now).conditions := by
  rw [Rule.validate, require_eq_ok_iff.2 (ruleViolations_patched wellFormed kept now)]
  rfl

/-- Under a patch that keeps its constraints, the expressions are all that can go wrong. -/
theorem wellFormed_patched_iff : (rule.patched patch now).WellFormed ↔ patch.Parses := by
  rw [wellFormed_iff, and_iff_right (ruleViolations_patched wellFormed kept now)]
  constructor
  · intro parses conditions named
    have same : (rule.patched patch now).conditions = conditions := by simp [Rule.patched, named]
    rw [← same]
    exact parses
  · intro parses
    exact named_or_old
      (motive := fun conditions : List Condition => ∀ condition ∈ conditions, ∀ source,
        condition.source? = some source → ∃ program, parse source = .ok program)
      wellFormed.parses parses

end Rule

end Verdict
