import Verdict.Store.Change
import Verdict.Proofs.Store.Order
/-!
What saving, updating and deleting do to the rules of a snapshot, and when they succeed. Each operation
takes a well-formed snapshot to a well-formed one.
-/

namespace Verdict

open Time (Instant)

/-- A rule after a patch of the rule of a name: other rules stay as they are. -/
def Rule.patchedAt (id : String) (patch : RulePatch) (now : Instant) (rule : Rule) : Rule :=
  if rule.id = id then rule.patched patch now else rule

theorem Rule.patchedAt_of_named {rule : Rule} {id : String} (named : rule.id = id) (patch : RulePatch)
    (now : Instant) : rule.patchedAt id patch now = rule.patched patch now :=
  if_pos named

theorem Rule.patchedAt_of_other {rule : Rule} {id : String} (other : rule.id ≠ id) (patch : RulePatch)
    (now : Instant) : rule.patchedAt id patch now = rule :=
  if_neg other

@[simp] theorem Rule.patched_id (rule : Rule) (patch : RulePatch) (now : Instant) :
    (rule.patched patch now).id = rule.id := rfl

@[simp] theorem Rule.patchedAt_id (id : String) (patch : RulePatch) (now : Instant) (rule : Rule) :
    (rule.patchedAt id patch now).id = rule.id := by
  by_cases named : rule.id = id
  · rw [patchedAt_of_named named, patched_id]
  · rw [patchedAt_of_other named]

/-- A patch leaves the names of rules as they are. -/
theorem Rule.map_id_patchedAt (id : String) (patch : RulePatch) (now : Instant) (rules : List Rule) :
    (rules.map (patchedAt id patch now)).map Rule.id = rules.map Rule.id := by
  rw [List.map_map]
  exact List.map_congr_left (fun rule _ => rule.patchedAt_id id patch now)

/-- The order of the rules does not matter to their constraints. -/
theorem RuleSet.WellFormed.perm {ruleSet : RuleSet} (wellFormed : ruleSet.WellFormed) {rules : List Rule}
    (same : rules.Perm ruleSet.rules) : RuleSet.WellFormed ⟨ruleSet.version, ruleSet.metadata, rules⟩ where
  versioned := wellFormed.versioned
  titled := wellFormed.titled
  distinct := (same.map Rule.id).nodup_iff.2 wellFormed.distinct
  rules := fun rule member => wellFormed.rules rule (same.mem_iff.1 member)

/-- A snapshot that stands in order and whose rule set keeps every constraint. -/
structure Snapshot.WellFormed (snapshot : Snapshot) : Prop where
  ascending : Rule.Ascending snapshot.plainRules
  kept : snapshot.toRuleSet.WellFormed

namespace Snapshot

theorem ofRuleSet_eq_ok {ruleSet : RuleSet} {now : Instant} {snapshot : Snapshot}
    (success : ofRuleSet ruleSet now = .ok snapshot) :
    ruleSet.WellFormed ∧ snapshot.version = ruleSet.version ∧ snapshot.metadata = ruleSet.metadata ∧
      snapshot.plainRules = Rule.byPriority ruleSet.rules := by
  rw [ofRuleSet, Outcome.check_bind_eq_ok_iff, Outcome.bind_eq_ok_iff] at success
  obtain ⟨valid, compiled, compiles, same⟩ := success
  cases same
  refine ⟨RuleSet.validate_eq_ok_iff.1 valid, rfl, rfl, ?_⟩
  rw [plainRules, CompiledRule.map_rule_byPriority, CompiledRule.map_rule_of_compileAll compiles]

theorem exists_ofRuleSet {ruleSet : RuleSet} (wellFormed : ruleSet.WellFormed) (now : Instant) :
    ∃ snapshot, ofRuleSet ruleSet now = .ok snapshot := by
  obtain ⟨compiled, compiles⟩ := CompiledRule.exists_compileAll wellFormed.rules
  refine ⟨⟨ruleSet.version, ruleSet.metadata, now, CompiledRule.byPriority compiled⟩, ?_⟩
  rw [ofRuleSet, Outcome.check_bind_eq_ok_iff, Outcome.bind_eq_ok_iff]
  exact ⟨RuleSet.validate_eq_ok_iff.2 wellFormed, compiled, compiles, rfl⟩

theorem wellFormed_of_ofRuleSet {ruleSet : RuleSet} {now : Instant} {snapshot : Snapshot}
    (success : ofRuleSet ruleSet now = .ok snapshot) : snapshot.WellFormed := by
  obtain ⟨wellFormed, version, metadata, rules⟩ := ofRuleSet_eq_ok success
  constructor
  · rw [rules]
    exact Rule.ascending_byPriority ruleSet.rules
  · rw [toRuleSet, version, metadata, rules]
    exact wellFormed.perm (Rule.byPriority_perm ruleSet.rules)

theorem find?_eq_some {snapshot : Snapshot} {id : String} {rule : Rule}
    (found : snapshot.find? id = some rule) : rule ∈ snapshot.plainRules ∧ rule.id = id := by
  exact ⟨List.mem_of_find?_eq_some found, by simpa using List.find?_some found⟩

/-- What an update does: it finds the rule, patches it, and puts it compiled in the place of the old one before
it sorts. -/
theorem update_eq_ok_iff {snapshot changed : Snapshot} {id : String} {patch : RulePatch} {now : Instant}
    {rule : Rule} :
    snapshot.update id patch now = .ok (rule, changed) ↔
      ∃ old compiled, snapshot.find? id = some old ∧ rule = old.patched patch now ∧ rule.WellFormed ∧
        CompiledRule.compile rule = .ok compiled ∧
          changed = { snapshot with
            lastUpdated := now
            rules := CompiledRule.byPriority (replaceFirst id compiled snapshot.rules) } := by
  unfold update
  cases found : snapshot.find? id with
  | none => simp
  | some old =>
    simp only
    rw [Outcome.check_bind_eq_ok_iff, Outcome.bind_eq_ok_iff, Rule.validate_eq_ok_iff]
    constructor
    · intro steps
      obtain ⟨valid, compiled, compiles, same⟩ := steps
      cases same
      exact ⟨old, compiled, rfl, rfl, valid, compiles, rfl⟩
    · intro steps
      obtain ⟨_, compiled, same, rfl, valid, compiles, rfl⟩ := steps
      cases same
      exact ⟨valid, compiled, compiles, rfl⟩

/-- What a deletion does: it finds the rule and takes it out. -/
theorem delete_eq_ok_iff {snapshot changed : Snapshot} {id : String} {now : Instant} {rule : Rule} :
    snapshot.delete id now = .ok (rule, changed) ↔
      snapshot.find? id = some rule ∧
        changed = { snapshot with
          lastUpdated := now
          rules := snapshot.rules.eraseP (fun compiled => compiled.rule.id == id) } := by
  unfold delete
  cases found : snapshot.find? id with
  | none => simp
  | some old =>
    constructor
    · intro success
      cases success
      exact ⟨rfl, rfl⟩
    · intro reached
      obtain ⟨same, rfl⟩ := reached
      cases same
      rfl

section Distinct

variable {id : String} {rules : List CompiledRule}
  (distinct : ((rules.map CompiledRule.rule).map Rule.id).Nodup)

include distinct

/-- Where names are distinct, replacing the first rule of a name replaces every rule of that name. -/
theorem replaceFirst_eq_map (replacement : CompiledRule) :
    replaceFirst id replacement rules =
      rules.map (fun compiled => if compiled.rule.id = id then replacement else compiled) := by
  induction rules with
  | nil => rfl
  | cons compiled rest ih =>
    simp only [List.map_cons, List.nodup_cons] at distinct
    obtain ⟨fresh, distinct⟩ := distinct
    rw [replaceFirst, List.map_cons]
    by_cases named : compiled.rule.id = id
    · have untouched : rest.map (fun other => if other.rule.id = id then replacement else other) = rest := by
        refine (List.map_congr_left (fun other member => if_neg (fun same => fresh ?_))).trans
          (List.map_id' _)
        rw [named, ← same]
        exact List.mem_map_of_mem (List.mem_map_of_mem member)
      rw [if_pos (beq_iff_eq.2 named), if_pos named, untouched]
    · rw [if_neg (mt beq_iff_eq.1 named), if_neg named, ih distinct]

/-- Where names are distinct, erasing the first rule of a name takes every rule of that name out. -/
theorem eraseP_eq_filter :
    rules.eraseP (fun compiled => compiled.rule.id == id) =
      rules.filter (fun compiled => compiled.rule.id != id) := by
  induction rules with
  | nil => rfl
  | cons compiled rest ih =>
    simp only [List.map_cons, List.nodup_cons] at distinct
    obtain ⟨fresh, distinct⟩ := distinct
    by_cases named : compiled.rule.id = id
    · have untouched : rest.filter (fun other => other.rule.id != id) = rest := by
        apply List.filter_eq_self.2
        intro other member
        rw [bne_iff_ne]
        intro same
        rw [named, ← same] at fresh
        exact fresh (List.mem_map_of_mem (List.mem_map_of_mem member))
      simp [named, untouched]
    · simp [named, ih distinct]

end Distinct

theorem update_eq_ok {snapshot changed : Snapshot} {id : String} {patch : RulePatch} {now : Instant}
    {rule : Rule} (wellFormed : snapshot.WellFormed)
    (success : snapshot.update id patch now = .ok (rule, changed)) :
    ∃ old ∈ snapshot.plainRules, old.id = id ∧ rule = old.patched patch now ∧ rule.WellFormed ∧
      changed.version = snapshot.version ∧ changed.metadata = snapshot.metadata ∧
        changed.plainRules =
          Rule.byPriority (snapshot.plainRules.map (Rule.patchedAt id patch now)) := by
  obtain ⟨old, compiled, found, rfl, valid, compiles, rfl⟩ := update_eq_ok_iff.1 success
  obtain ⟨member, named⟩ := find?_eq_some found
  refine ⟨old, member, named, rfl, valid, rfl, rfl, ?_⟩
  rw [plainRules, CompiledRule.map_rule_byPriority, replaceFirst_eq_map wellFormed.kept.distinct, List.map_map,
    plainRules, List.map_map]
  refine congrArg Rule.byPriority (List.map_congr_left (fun other otherMember => ?_))
  rw [Function.comp_apply, Function.comp_apply]
  by_cases sameName : other.rule.id = id
  · rw [if_pos sameName, CompiledRule.rule_of_compile compiles, Rule.patchedAt_of_named sameName,
      Rule.eq_of_id_eq wellFormed.kept.distinct (List.mem_map_of_mem otherMember) member
        (sameName.trans named.symm)]
  · rw [if_neg sameName, Rule.patchedAt_of_other sameName]

theorem exists_update {snapshot : Snapshot} {old : Rule} {patch : RulePatch} {now : Instant}
    (wellFormed : snapshot.WellFormed) (member : old ∈ snapshot.plainRules)
    (patched : (old.patched patch now).WellFormed) :
    ∃ changed, snapshot.update old.id patch now = .ok (old.patched patch now, changed) := by
  obtain ⟨compiled, compiles⟩ := CompiledRule.exists_compile patched
  have found : snapshot.find? old.id = some old := Rule.find?_id_eq_some wellFormed.kept.distinct member
  exact ⟨_, update_eq_ok_iff.2 ⟨old, compiled, found, rfl, patched, compiles, rfl⟩⟩

/-- A patched rule that breaks a constraint is refused for it. -/
theorem update_of_invalid {snapshot : Snapshot} {old : Rule} {patch : RulePatch} {now : Instant}
    {error : RuleError} (wellFormed : snapshot.WellFormed) (member : old ∈ snapshot.plainRules)
    (invalid : (old.patched patch now).validate = .error error) :
    snapshot.update old.id patch now = .error error := by
  have found : snapshot.find? old.id = some old := Rule.find?_id_eq_some wellFormed.kept.distinct member
  simp only [update, found, invalid]
  rfl

theorem delete_eq_ok {snapshot changed : Snapshot} {id : String} {now : Instant} {rule : Rule}
    (wellFormed : snapshot.WellFormed) (success : snapshot.delete id now = .ok (rule, changed)) :
    rule ∈ snapshot.plainRules ∧ rule.id = id ∧ changed.version = snapshot.version ∧
      changed.metadata = snapshot.metadata ∧
        changed.plainRules = snapshot.plainRules.filter (fun other => other.id != id) := by
  obtain ⟨found, rfl⟩ := delete_eq_ok_iff.1 success
  obtain ⟨member, named⟩ := find?_eq_some found
  refine ⟨member, named, rfl, rfl, ?_⟩
  rw [plainRules, eraseP_eq_filter wellFormed.kept.distinct, plainRules, List.filter_map]
  rfl

theorem exists_delete {snapshot : Snapshot} {old : Rule} (wellFormed : snapshot.WellFormed)
    (member : old ∈ snapshot.plainRules) (now : Instant) :
    ∃ changed, snapshot.delete old.id now = .ok (old, changed) :=
  ⟨_, delete_eq_ok_iff.2 ⟨Rule.find?_id_eq_some wellFormed.kept.distinct member, rfl⟩⟩

theorem wellFormed_of_update {snapshot changed : Snapshot} {id : String} {patch : RulePatch}
    {now : Instant} {rule : Rule} (wellFormed : snapshot.WellFormed)
    (success : snapshot.update id patch now = .ok (rule, changed)) : changed.WellFormed := by
  obtain ⟨old, member, named, rfl, patched, version, metadata, rules⟩ := update_eq_ok wellFormed success
  constructor
  · rw [rules]
    exact Rule.ascending_byPriority _
  · rw [toRuleSet, version, metadata, rules]
    -- Only the patched rule has to be checked again: names do not change, and the others are untouched.
    have unsorted : RuleSet.WellFormed ⟨snapshot.version, snapshot.metadata,
        snapshot.plainRules.map (Rule.patchedAt id patch now)⟩ := by
      refine ⟨wellFormed.kept.versioned, wellFormed.kept.titled, ?_, ?_⟩
      · rw [Rule.map_id_patchedAt]
        exact wellFormed.kept.distinct
      · rw [List.forall_mem_map]
        intro other otherMember
        by_cases sameName : other.id = id
        · rw [Rule.patchedAt_of_named sameName,
            Rule.eq_of_id_eq wellFormed.kept.distinct otherMember member (sameName.trans named.symm)]
          exact patched
        · rw [Rule.patchedAt_of_other sameName]
          exact wellFormed.kept.rules other otherMember
    exact unsorted.perm (Rule.byPriority_perm _)

theorem wellFormed_of_delete {snapshot changed : Snapshot} {id : String} {now : Instant} {rule : Rule}
    (wellFormed : snapshot.WellFormed) (success : snapshot.delete id now = .ok (rule, changed)) :
    changed.WellFormed := by
  obtain ⟨_, _, version, metadata, rules⟩ := delete_eq_ok wellFormed success
  constructor
  · rw [rules]
    exact wellFormed.ascending.filter _
  · rw [toRuleSet, version, metadata, rules]
    refine ⟨wellFormed.kept.versioned, wellFormed.kept.titled, ?_, ?_⟩
    · exact wellFormed.kept.distinct.sublist (List.filter_sublist.map Rule.id)
    · exact fun other member => wellFormed.kept.rules other (List.mem_of_mem_filter member)

end Snapshot

end Verdict
