import Verdict.Proofs.Store.Merging
/-!
What an edit of one rule leaves alone. An update puts the changed rule in the place of the old one and sorts all
rules again; since they stood in order before, only the changed rule can move, and all others keep their order. A
deletion moves nothing.
-/

namespace Verdict

open Time (Instant)

/-- A rule that a patch made of an old one: its name and the time at which it was made are the old ones, and so is
every part that the patch does not name. -/
structure Rule.KeepsUnnamed (patch : RulePatch) (old rule : Rule) : Prop where
  id : rule.id = old.id
  createdAt : rule.createdAt = old.createdAt
  name : patch.name = none → rule.name = old.name
  description : patch.description = none → rule.description = old.description
  kind : patch.kind = none → rule.kind = old.kind
  priority : patch.priority = none → rule.priority = old.priority
  active : patch.active = none → rule.active = old.active
  conditions : patch.conditions = none → rule.conditions = old.conditions
  actions : patch.actions = none → rule.actions = old.actions

theorem Rule.keepsUnnamed_patched (rule : Rule) (patch : RulePatch) (now : Instant) :
    KeepsUnnamed patch rule (rule.patched patch now) := by
  constructor
  case id => rfl
  case createdAt => rfl
  all_goals
    intro unnamed
    simp only [Rule.patched, unnamed, Option.getD_none, Option.none_or]

namespace Snapshot

/-- The rules of other names, as they stand, with their programs. -/
def without (id : String) (snapshot : Snapshot) : List CompiledRule :=
  snapshot.rules.filter (fun compiled => compiled.rule.id != id)

/-- Two snapshots that differ in nothing but the rule of a name and the time of their last change. -/
structure SameBut (id : String) (before after : Snapshot) : Prop where
  version : after.version = before.version
  metadata : after.metadata = before.metadata
  others : after.without id = before.without id

/-- A snapshot after an update of the rule of a name: the changed rule is found in the place of the old one, it was
made by the patch, and the other rules are the same in the same order. -/
structure Updated (id : String) (patch : RulePatch) (old rule : Rule) (before after : Snapshot) : Prop
    extends SameBut id before after where
  found : before.find? id = some old
  given : after.find? id = some rule
  once : after.plainRules.Perm (rule :: (before.without id).map CompiledRule.rule)
  kept : Rule.KeepsUnnamed patch old rule

/-- A snapshot after the deletion of the rule of a name: the others are left, in the same order. -/
structure Deleted (id : String) (rule : Rule) (before after : Snapshot) : Prop
    extends SameBut id before after where
  found : before.find? id = some rule
  left : after.rules = before.without id

variable {id : String} {rules : List CompiledRule}

theorem filter_replaceFirst {replacement : CompiledRule} (named : replacement.rule.id = id)
    (rules : List CompiledRule) :
    (replaceFirst id replacement rules).filter (fun compiled => compiled.rule.id != id) =
      rules.filter (fun compiled => compiled.rule.id != id) := by
  induction rules with
  | nil => rfl
  | cons compiled rest ih =>
    rw [replaceFirst]
    by_cases same : compiled.rule.id = id
    · simp [same, named]
    · simp [same, ih]

theorem sameBut_of_update {before after : Snapshot} {patch : RulePatch} {now : Instant} {rule : Rule}
    (wellFormed : before.WellFormed) (success : before.update id patch now = .ok (rule, after)) :
    before.SameBut id after := by
  obtain ⟨old, compiled, found, rfl, _, compiles, rfl⟩ := update_eq_ok_iff.1 success
  have named : compiled.rule.id = id := by
    rw [CompiledRule.rule_of_compile compiles]
    exact (find?_eq_some found).2
  have ascending : Rule.Ascending ((before.without id).map CompiledRule.rule) :=
    wellFormed.ascending.sublist (List.filter_sublist.map CompiledRule.rule)
  refine ⟨rfl, rfl, ?_⟩
  -- What was sorted before and is left of it stays sorted, so the second sort moves none of the others.
  calc (CompiledRule.byPriority (replaceFirst id compiled before.rules)).filter
        (fun compiled => compiled.rule.id != id)
      = CompiledRule.byPriority ((replaceFirst id compiled before.rules).filter
          (fun compiled => compiled.rule.id != id)) :=
        CompiledRule.filter_byPriority _ _
    _ = CompiledRule.byPriority (before.without id) := by rw [filter_replaceFirst named]; rfl
    _ = before.without id := CompiledRule.byPriority_of_ascending ascending

theorem replaceFirst_perm {replacement : CompiledRule} (listed : ∃ compiled ∈ rules, compiled.rule.id = id) :
    (replaceFirst id replacement rules).Perm
      (replacement :: rules.eraseP (fun compiled => compiled.rule.id == id)) := by
  induction rules with
  | nil => simp at listed
  | cons compiled rest ih =>
    rw [replaceFirst, List.eraseP_cons]
    cases named : compiled.rule.id == id with
    | true => exact .refl _
    | false =>
      have later : ∃ other ∈ rest, other.rule.id = id := by simpa [beq_eq_false_iff_ne.1 named] using listed
      exact ((ih later).cons compiled).trans (.swap ..)

theorem plainRules_of_update {before after : Snapshot} {patch : RulePatch} {now : Instant} {rule : Rule}
    (wellFormed : before.WellFormed) (success : before.update id patch now = .ok (rule, after)) :
    after.plainRules.Perm (rule :: (before.without id).map CompiledRule.rule) := by
  obtain ⟨old, compiled, found, rfl, _, compiles, rfl⟩ := update_eq_ok_iff.1 success
  obtain ⟨member, named⟩ := find?_eq_some found
  obtain ⟨stored, storedMember, rfl⟩ := List.mem_map.1 member
  rw [without, ← eraseP_eq_filter wellFormed.kept.distinct, ← CompiledRule.rule_of_compile compiles,
    ← List.map_cons]
  exact ((Sorting.byKey_perm _ _).trans (replaceFirst_perm ⟨stored, storedMember, named⟩)).map CompiledRule.rule

theorem updated_of_update {before after : Snapshot} {patch : RulePatch} {now : Instant} {rule : Rule}
    (wellFormed : before.WellFormed) (success : before.update id patch now = .ok (rule, after)) :
    ∃ old, before.Updated id patch old rule after := by
  obtain ⟨old, compiled, found, same, _, _, _⟩ := update_eq_ok_iff.1 success
  have once := plainRules_of_update wellFormed success
  have named : rule.id = id := by
    rw [same]
    exact (find?_eq_some found).2
  have given : after.find? id = some rule := by
    rw [← named]
    exact Rule.find?_id_eq_some (wellFormed_of_update wellFormed success).kept.distinct
      (once.mem_iff.2 List.mem_cons_self)
  have kept : Rule.KeepsUnnamed patch old rule := by
    rw [same]
    exact old.keepsUnnamed_patched patch now
  exact ⟨old, sameBut_of_update wellFormed success, found, given, once, kept⟩

theorem deleted_of_delete {before after : Snapshot} {now : Instant} {rule : Rule}
    (wellFormed : before.WellFormed) (success : before.delete id now = .ok (rule, after)) :
    before.Deleted id rule after := by
  obtain ⟨found, rfl⟩ := delete_eq_ok_iff.1 success
  have left : before.rules.eraseP (fun compiled => compiled.rule.id == id) = before.without id :=
    eraseP_eq_filter wellFormed.kept.distinct
  have others : (before.rules.eraseP (fun compiled => compiled.rule.id == id)).filter
      (fun compiled => compiled.rule.id != id) = before.without id := by
    rw [left, without, List.filter_filter]
    simp only [Bool.and_self]
  exact ⟨⟨rfl, rfl, others⟩, found, left⟩

end Snapshot

namespace Store

theorem get_of_find? {store : Store} {snapshot : Snapshot} {id : String} {rule : Rule}
    (present : store.snapshot = some snapshot) (found : snapshot.find? id = some rule) :
    store.get id = .ok rule := by
  rw [get, present, Option.bind_some, found]

/-- In whatever state rules are in force: an update gives back the rule that is found under its name afterwards, which
keeps what the patch does not name; a deletion gives back the rule that was found under its name before; and both leave
the version, the description and all other rules as they are, in the same order. -/
theorem edits_leave_other_rules {store : Store} (reachable : store.Reachable) (id : String) (now : Instant) :
    (∀ patch rule changed, store.update id patch now = .ok (rule, changed) →
        ∃ before after old, store.snapshot = some before ∧ changed.snapshot = some after ∧
          before.Updated id patch old rule after ∧ store.get id = .ok old ∧ changed.get id = .ok rule) ∧
      ∀ rule changed, store.delete id now = .ok (rule, changed) →
        ∃ before after, store.snapshot = some before ∧ changed.snapshot = some after ∧
          before.Deleted id rule after ∧ store.get id = .ok rule := by
  constructor
  · intro patch rule changed success
    obtain ⟨before, after, present, made, rfl⟩ := update_eq_ok_iff.1 success
    obtain ⟨old, updated⟩ := Snapshot.updated_of_update (reachable.wellFormed before present) made
    exact ⟨before, after, old, present, rfl, updated, get_of_find? present updated.found,
      get_of_find? rfl updated.given⟩
  · intro rule changed success
    obtain ⟨before, after, present, made, rfl⟩ := delete_eq_ok_iff.1 success
    have deleted := Snapshot.deleted_of_delete (reachable.wellFormed before present) made
    exact ⟨before, after, present, rfl, deleted, get_of_find? present deleted.found⟩

/-- Three rules are saved, the last two of one priority. -/
def tiedChanges : List (Change × Instant) :=
  [(.save ⟨"1", ⟨"amounts", none, none, none⟩, [amountRule "a" 1, amountRule "b" 5, amountRule "c" 5]⟩, ⟨0, 0⟩)]

theorem tied_rule_moved_or_deleted :
    (empty.afterAll tiedChanges).Reachable ∧
      (∃ rule changed before after old,
        (empty.afterAll tiedChanges).update "c" (priorityPatch 1) ⟨5, 0⟩ = .ok (rule, changed) ∧
          (empty.afterAll tiedChanges).snapshot = some before ∧ changed.snapshot = some after ∧
            before.Updated "c" (priorityPatch 1) old rule after ∧
              (empty.afterAll tiedChanges).get "c" = .ok old ∧ changed.get "c" = .ok rule) ∧
      ∃ rule changed before after, (empty.afterAll tiedChanges).delete "b" ⟨5, 0⟩ = .ok (rule, changed) ∧
        (empty.afterAll tiedChanges).snapshot = some before ∧ changed.snapshot = some after ∧
          before.Deleted "b" rule after ∧ (empty.afterAll tiedChanges).get "b" = .ok rule := by
  have reachable : (empty.afterAll tiedChanges).Reachable := ⟨tiedChanges, rfl⟩
  have moves : ((empty.afterAll tiedChanges).update "c" (priorityPatch 1) ⟨5, 0⟩).toOption.isSome = true := by cbv
  obtain ⟨⟨moved, after⟩, found⟩ := Option.isSome_iff_exists.1 moves
  have updated := Outcome.eq_ok_of_toOption found
  have leaves : ((empty.afterAll tiedChanges).delete "b" ⟨5, 0⟩).toOption.isSome = true := by cbv
  obtain ⟨⟨gone, left⟩, found⟩ := Option.isSome_iff_exists.1 leaves
  have deleted := Outcome.eq_ok_of_toOption found
  obtain ⟨before, later, old, result⟩ :=
    (edits_leave_other_rules reachable "c" ⟨5, 0⟩).1 (priorityPatch 1) moved after updated
  obtain ⟨earlier, rest, answer⟩ := (edits_leave_other_rules reachable "b" ⟨5, 0⟩).2 gone left deleted
  exact ⟨reachable, ⟨moved, after, before, later, old, updated, result⟩,
    gone, left, earlier, rest, deleted, answer⟩

end Store

end Verdict
