import Verdict.Proofs.Rule.Patching
import Verdict.Proofs.Rule.Violations
import Verdict.Proofs.Store.Invariant
/-!
Merging accepted patches into rules in force. A patch is checked when it is accepted, and the merged rule is checked
again under constraints that are written down apart from those of patches. The second check finds nothing new: rules
in force keep their constraints, so that all that can be wrong with a merged rule is an expression of the patch.
-/

namespace Verdict

open Expression (parse)
open Time (Instant)
open Validation

/-- The expressions that a patch brings into the rule of a name, in the order in which they stand. -/
def RulePatch.expressions (patch : RulePatch) (id : String) : List ExpressionOwner :=
  (patch.conditions.getD []).filterMap (fun condition => condition.source?.map (fun source => ⟨id, source⟩))

/-- Checking a patched rule parses the expressions of the patch; the ones that the rule had before are known to
parse. -/
theorem Rule.validate_patched_inOrder {rule : Rule} {patch : RulePatch} (wellFormed : rule.WellFormed)
    (kept : patch.WellFormed) (now : Instant) :
    ParsedInOrder (patch.expressions rule.id) (rule.patched patch now).validate := by
  rw [validate_patched wellFormed kept, RulePatch.expressions, Rule.patched]
  cases named : patch.conditions with
  | none =>
    have old : requireParses rule.id rule.conditions = .ok () :=
      requireParses_eq_ok_iff.2 wellFormed.parses
    rw [Option.getD_none, Option.getD_none, old]
    exact .nil
  | some conditions => exact requireParses_inOrder rule.id conditions

namespace Store

/-- What becomes of an accepted patch of the rule of a name: it is merged exactly if its expressions parse, and
otherwise the first of them that does not parse is the error. -/
structure Merges (patch : RulePatch) (id : String) (answer : Except RuleError (Rule × Store)) : Prop where
  merged : (∃ rule changed, answer = .ok (rule, changed)) ↔ patch.Parses
  unparsed : ∀ error, answer = .error error → ∃ owner fault,
    error = .badExpression fault (some owner) ∧ FirstUnparsed (patch.expressions id) owner fault

section InForce

variable {store : Store} {snapshot : Snapshot} {rule : Rule} {patch : RulePatch} {now : Instant}
  (present : store.snapshot = some snapshot) (wellFormed : snapshot.WellFormed)
  (member : rule ∈ snapshot.plainRules)

include present wellFormed member

theorem exists_update_of_wellFormed (patched : (rule.patched patch now).WellFormed) :
    ∃ changed, store.update rule.id patch now = .ok (rule.patched patch now, changed) := by
  obtain ⟨changed, success⟩ := Snapshot.exists_update wellFormed member patched
  exact ⟨⟨some changed⟩, update_eq_ok_iff.2 ⟨snapshot, changed, present, success, rfl⟩⟩

theorem update_of_invalid {error : RuleError} (invalid : (rule.patched patch now).validate = .error error) :
    store.update rule.id patch now = .error error := by
  simp only [update, present, Snapshot.update_of_invalid wellFormed member invalid]
  rfl

theorem merges_of_kept (kept : patch.WellFormed) :
    Merges patch rule.id (store.update rule.id patch now) := by
  have formed := wellFormed.kept.rules rule member
  have checked := Rule.validate_patched_inOrder formed kept now
  generalize outcome : (rule.patched patch now).validate = answer at checked
  cases checked with
  | all _ =>
    have patched := Rule.validate_eq_ok_iff.1 outcome
    obtain ⟨changed, updated⟩ := exists_update_of_wellFormed present wellFormed member patched
    constructor
    case merged => exact iff_of_true ⟨_, changed, updated⟩ ((Rule.wellFormed_patched_iff formed kept now).1 patched)
    case unparsed =>
      intro error same
      cases updated.symm.trans same
  | first failing =>
    have refused := update_of_invalid present wellFormed member outcome
    constructor
    case merged =>
      constructor
      · intro success
        obtain ⟨_, _, same⟩ := success
        cases refused.symm.trans same
      · intro parses
        have patched := (Rule.wellFormed_patched_iff formed kept now).2 parses
        cases (Rule.validate_eq_ok_iff.2 patched).symm.trans outcome
    case unparsed =>
      intro error same
      cases refused.symm.trans same
      exact ⟨_, _, rfl, failing⟩

end InForce

/-- Whatever rule is in force and whatever patch of it was accepted, the patch is merged exactly if its expressions
parse, and all that can be said against it is that one of them does not. -/
theorem accepted_patch_merges_iff_parses {store : Store} (reachable : store.Reachable) {snapshot : Snapshot}
    (present : store.snapshot = some snapshot) {id : String} (listed : id ∈ snapshot.plainRules.map Rule.id)
    {payload : Json} {patch : RulePatch}
    (accepted : RulePatch.accept payload = .ok patch) (now : Instant) :
    Merges patch id (store.update id patch now) := by
  obtain ⟨rule, member, rfl⟩ := List.mem_map.1 listed
  exact merges_of_kept present (reachable.wellFormed snapshot present) member
    (RulePatch.wellFormed_of_accept accepted)

/-- A patch of a name and of conditions, of which the second does not parse. -/
def unfinishedPayload : Json :=
  .object [("name", .string "large"),
    ("conditions", .array
      [.object [("expression", .string "approved")], .object [("expression", .string "amount >")]])]

/-- The patch that is read from it. -/
def unfinishedPatch : RulePatch :=
  ⟨some "large", none, none, none, none,
    some [⟨.expression "approved", .and⟩, ⟨.expression "amount >", .and⟩], none⟩

theorem unfinished_patch_merges_not :
    (empty.afterAll mixedChanges).Reachable ∧
      RulePatch.accept unfinishedPayload = .ok unfinishedPatch ∧ ¬unfinishedPatch.Parses ∧
        ∃ snapshot, (empty.afterAll mixedChanges).snapshot = some snapshot ∧
          "b" ∈ snapshot.plainRules.map Rule.id ∧
            Merges unfinishedPatch "b" ((empty.afterAll mixedChanges).update "b" unfinishedPatch ⟨5, 0⟩) := by
  have reachable : (empty.afterAll mixedChanges).Reachable := ⟨mixedChanges, rfl⟩
  have accepted : RulePatch.accept unfinishedPayload = .ok unfinishedPatch := rfl
  have unparsed : ¬unfinishedPatch.Parses := by
    intro parses
    obtain ⟨program, parsed⟩ :=
      parses _ rfl ⟨.expression "amount >", .and⟩ (List.mem_cons_of_mem _ List.mem_cons_self) "amount >" rfl
    have fails : (parse "amount >").toOption = none := by decide +kernel
    rw [parsed] at fails
    cases fails
  have names : (empty.afterAll mixedChanges).snapshot.map
      (fun snapshot => snapshot.plainRules.map Rule.id) = some ["b", "a"] := by cbv
  obtain ⟨snapshot, present, order⟩ := Option.map_eq_some_iff.1 names
  have listed : "b" ∈ snapshot.plainRules.map Rule.id := order ▸ List.mem_cons_self
  exact ⟨reachable, accepted, unparsed, snapshot, present, listed,
    accepted_patch_merges_iff_parses reachable present listed accepted ⟨5, 0⟩⟩

end Store

end Verdict
