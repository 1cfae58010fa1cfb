import Mathlib
import Verdict.Proofs.Store.Operations
/-!
The invariant of a store. Saving checks a whole rule set, updating checks one merged rule and deleting
checks nothing, yet after any changes the rules in force stand in order and keep every constraint on their
set, so that they can be saved again as they are.
-/

namespace Verdict.Store

open Time (Instant)

/-- A store whose snapshot, if there is one, is well formed. -/
def WellFormed (store : Store) : Prop :=
  ∀ snapshot, store.snapshot = some snapshot → snapshot.WellFormed

theorem save_eq_ok_iff {store changed : Store} {ruleSet : RuleSet} {now : Instant} {snapshot : Snapshot} :
    store.save ruleSet now = .ok (snapshot, changed) ↔
      Snapshot.ofRuleSet ruleSet now = .ok snapshot ∧ changed = ⟨some snapshot⟩ := by
  rw [save, Outcome.map_eq_ok_iff]
  constructor
  · intro reached
    obtain ⟨made, success, same⟩ := reached
    cases same
    exact ⟨success, rfl⟩
  · intro reached
    obtain ⟨success, rfl⟩ := reached
    exact ⟨snapshot, success, rfl⟩

/-- An operation on one rule needs a snapshot to work on. -/
theorem operation_eq_ok_iff {store changed : Store} {missing : RuleError} {rule : Rule}
    {operation : Snapshot → Except RuleError (Rule × Snapshot)} :
    (match store.snapshot with
      | none => .error missing
      | some snapshot => (operation snapshot).map (fun (rule, changed) => (rule, ⟨some changed⟩)) :
        Except RuleError (Rule × Store)) = .ok (rule, changed) ↔
      ∃ before after, store.snapshot = some before ∧ operation before = .ok (rule, after) ∧
        changed = ⟨some after⟩ := by
  cases present : store.snapshot with
  | none => simp
  | some before =>
    rw [Outcome.map_eq_ok_iff]
    constructor
    · intro reached
      obtain ⟨⟨found, after⟩, success, same⟩ := reached
      cases same
      exact ⟨before, after, rfl, success, rfl⟩
    · intro reached
      obtain ⟨other, after, same, success, rfl⟩ := reached
      cases same
      exact ⟨(rule, after), success, rfl⟩

theorem update_eq_ok_iff {store changed : Store} {id : String} {patch : RulePatch} {now : Instant}
    {rule : Rule} :
    store.update id patch now = .ok (rule, changed) ↔
      ∃ before after, store.snapshot = some before ∧ before.update id patch now = .ok (rule, after) ∧
        changed = ⟨some after⟩ :=
  operation_eq_ok_iff

theorem delete_eq_ok_iff {store changed : Store} {id : String} {now : Instant} {rule : Rule} :
    store.delete id now = .ok (rule, changed) ↔
      ∃ before after, store.snapshot = some before ∧ before.delete id now = .ok (rule, after) ∧
        changed = ⟨some after⟩ :=
  operation_eq_ok_iff

/-- A property of snapshots that every change establishes or keeps. -/
structure Invariant (property : Snapshot → Prop) : Prop where
  saved : ∀ {ruleSet now snapshot}, Snapshot.ofRuleSet ruleSet now = .ok snapshot → property snapshot
  updated : ∀ {before after : Snapshot} {id patch now rule}, property before →
    before.update id patch now = .ok (rule, after) → property after
  deleted : ∀ {before after : Snapshot} {id now rule}, property before →
    before.delete id now = .ok (rule, after) → property after

namespace Invariant

variable {property : Snapshot → Prop} {store : Store}

theorem orElse (holds : ∀ snapshot, store.snapshot = some snapshot → property snapshot) {α : Type}
    {outcome : Except RuleError (α × Store)}
    (success : ∀ value changed, outcome = .ok (value, changed) →
      ∀ snapshot, changed.snapshot = some snapshot → property snapshot) :
    ∀ snapshot, (store.orElse outcome).snapshot = some snapshot → property snapshot := by
  cases outcome with
  | error error => exact holds
  | ok result => exact success result.1 result.2 rfl

theorem after (invariant : Invariant property)
    (holds : ∀ snapshot, store.snapshot = some snapshot → property snapshot) (change : Change)
    (now : Instant) :
    ∀ snapshot, (store.after change now).snapshot = some snapshot → property snapshot := by
  cases change with
  | save ruleSet =>
    apply orElse holds
    intro saved changed success snapshot present
    obtain ⟨made, rfl⟩ := save_eq_ok_iff.1 success
    cases present
    exact invariant.saved made
  | update id patch =>
    apply orElse holds
    intro rule changed success snapshot present
    obtain ⟨before, updated, old, made, rfl⟩ := update_eq_ok_iff.1 success
    cases present
    exact invariant.updated (holds before old) made
  | delete id =>
    apply orElse holds
    intro rule changed success snapshot present
    obtain ⟨before, left, old, made, rfl⟩ := delete_eq_ok_iff.1 success
    cases present
    exact invariant.deleted (holds before old) made

theorem afterAll (invariant : Invariant property)
    (holds : ∀ snapshot, store.snapshot = some snapshot → property snapshot)
    (changes : List (Change × Instant)) :
    ∀ snapshot, (store.afterAll changes).snapshot = some snapshot → property snapshot := by
  induction changes generalizing store with
  | nil => exact holds
  | cons step rest ih => exact ih (invariant.after holds step.1 step.2)

/-- Whatever changes led to a store, its snapshot has every invariant property. -/
theorem reachable (invariant : Invariant property) (reachable : store.Reachable) {snapshot : Snapshot}
    (present : store.snapshot = some snapshot) : property snapshot := by
  obtain ⟨changes, rfl⟩ := reachable
  have nothing : ∀ snapshot, Store.empty.snapshot = some snapshot → property snapshot := by
    intro snapshot impossible
    cases impossible
  exact invariant.afterAll nothing changes snapshot present

end Invariant

theorem invariant_wellFormed : Invariant Snapshot.WellFormed where
  saved := Snapshot.wellFormed_of_ofRuleSet
  updated := Snapshot.wellFormed_of_update
  deleted := Snapshot.wellFormed_of_delete

theorem WellFormed.after {store : Store} (wellFormed : store.WellFormed) (change : Change)
    (now : Instant) : (store.after change now).WellFormed :=
  invariant_wellFormed.after wellFormed change now

theorem WellFormed.afterAll {store : Store} (wellFormed : store.WellFormed)
    (changes : List (Change × Instant)) : (store.afterAll changes).WellFormed :=
  invariant_wellFormed.afterAll wellFormed changes

theorem Reachable.wellFormed {store : Store} (reachable : store.Reachable) : store.WellFormed :=
  fun _ present => invariant_wellFormed.reachable reachable present

/-- Saving the rule set of a well-formed snapshot gives the same rules in the same order. -/
theorem exists_save_toRuleSet {snapshot : Snapshot} (wellFormed : snapshot.WellFormed) (store : Store)
    (now : Instant) :
    ∃ again, store.save snapshot.toRuleSet now = .ok (again, ⟨some again⟩) ∧
      again.plainRules = snapshot.plainRules := by
  obtain ⟨again, made⟩ := Snapshot.exists_ofRuleSet wellFormed.kept now
  refine ⟨again, save_eq_ok_iff.2 ⟨made, rfl⟩, ?_⟩
  obtain ⟨_, _, _, rules⟩ := Snapshot.ofRuleSet_eq_ok made
  rw [rules]
  exact Rule.byPriority_of_ascending wellFormed.ascending

/-- After any changes, successful or not, the rules in force stand in ascending priority, have distinct
names and keep the constraints on a rule set; saving them again succeeds and changes nothing. -/
theorem reachable_snapshot_resaves {store : Store} (reachable : store.Reachable) {snapshot : Snapshot}
    (present : store.snapshot = some snapshot) :
    snapshot.plainRules.Pairwise (fun left right => left.priority ≤ right.priority) ∧
      (snapshot.plainRules.map Rule.id).Nodup ∧ snapshot.toRuleSet.validate = .ok () ∧
        ∀ (other : Store) (now : Instant), ∃ again,
          other.save snapshot.toRuleSet now = .ok (again, ⟨some again⟩) ∧
            again.plainRules = snapshot.plainRules := by
  have wellFormed := reachable.wellFormed snapshot present
  exact ⟨wellFormed.ascending, wellFormed.kept.distinct, RuleSet.validate_eq_ok_iff.2 wellFormed.kept,
    exists_save_toRuleSet wellFormed⟩

/-- A rule that flags the records with an amount. -/
def amountRule (id : String) (priority : Int32) : Rule :=
  ⟨id, id, none, .validation, priority, true, [⟨.field "amount" .exists .null, .and⟩], [⟨.flag, []⟩],
    ⟨0, 0⟩, ⟨0, 0⟩⟩

/-- A patch of the priority alone. -/
def priorityPatch (priority : Int32) : RulePatch :=
  ⟨none, none, none, some priority, none, none, none⟩

/-- Two rules are saved; a change of order succeeds, and two further changes fail. -/
def mixedChanges : List (Change × Instant) :=
  [(.save ⟨"1", ⟨"amounts", none, none, none⟩, [amountRule "a" 1, amountRule "b" 2]⟩, ⟨0, 0⟩),
    (.update "a" (priorityPatch 9), ⟨1, 0⟩), (.update "b" (priorityPatch 11), ⟨2, 0⟩),
    (.delete "c", ⟨3, 0⟩)]

theorem reordered_rules_resave :
    ∃ snapshot, (empty.afterAll mixedChanges).snapshot = some snapshot ∧
      snapshot.plainRules.map Rule.id = ["b", "a"] ∧
        ∀ (other : Store) (now : Instant), ∃ again,
          other.save snapshot.toRuleSet now = .ok (again, ⟨some again⟩) ∧
            again.plainRules = snapshot.plainRules := by
  have names : (empty.afterAll mixedChanges).snapshot.map
      (fun snapshot => snapshot.plainRules.map Rule.id) = some ["b", "a"] := by cbv
  obtain ⟨snapshot, present, order⟩ := Option.map_eq_some_iff.1 names
  have reachable : (empty.afterAll mixedChanges).Reachable := ⟨mixedChanges, rfl⟩
  exact ⟨snapshot, present, order, (reachable_snapshot_resaves reachable present).2.2.2⟩

end Verdict.Store
