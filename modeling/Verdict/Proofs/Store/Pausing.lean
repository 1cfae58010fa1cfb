import Verdict.Proofs.Evaluation.Restamping
import Verdict.Proofs.Store.Alignment
import Verdict.Proofs.Store.Framing
/-!
Pausing a rule. A rule that is switched off is passed over in every evaluation, so that records fare as if it had been
deleted; and once it is switched on again they fare as before, since it never left its place and its programs were
made of the same conditions. All that remains of the pause is the time at which the rule was changed last, which no
evaluation looks at and no summary tells.
-/

namespace Verdict

open Time (Instant)

/-- A patch of nothing but whether a rule is active. -/
def RulePatch.activity (active : Bool) : RulePatch :=
  ⟨none, none, none, none, some active, none, none⟩

example (active : Bool) : RulePatch.accept (.object [("active", .bool active)]) = .ok (.activity active) := rfl

theorem Rule.WellFormed.activity {rule : Rule} (wellFormed : rule.WellFormed) (active : Bool) (now : Instant) :
    (rule.patched (.activity active) now).WellFormed :=
  ⟨wellFormed.named, wellFormed.titled, wellFormed.priority, wellFormed.conditions, wellFormed.actions,
    wellFormed.known, wellFormed.parses⟩

theorem Rule.priority_patchedAt {id : String} {patch : RulePatch} {now : Instant} (rule : Rule)
    (same : patch.priority = none) : (rule.patchedAt id patch now).priority = rule.priority := by
  by_cases named : rule.id = id
  · rw [patchedAt_of_named named, patched, same, Option.getD_none]
  · rw [patchedAt_of_other named]

/-- Of switching an active rule off and on again there is only the time of its last change left. -/
theorem Rule.patched_switched {rule : Rule} (active : rule.active = true) (pausedAt resumedAt : Instant) :
    (rule.patched (.activity false) pausedAt).patched (.activity true) resumedAt =
      { rule with updatedAt := resumedAt } := by
  simp [patched, RulePatch.activity, active]

theorem Rule.patchedAt_switched {id : String} {pausedAt resumedAt : Instant} (rule : Rule)
    (active : rule.id = id → rule.active = true) :
    (rule.patchedAt id (.activity false) pausedAt).patchedAt id (.activity true) resumedAt =
      rule.restamped id resumedAt := by
  by_cases named : rule.id = id
  · have again : (rule.patched (.activity false) pausedAt).id = id := named
    rw [patchedAt_of_named named, patchedAt_of_named again, restamped, if_pos named, patched_switched (active named)]
  · rw [patchedAt_of_other named, patchedAt_of_other named, restamped, if_neg named]

/-- A compiled rule after a patch of the rule of a name that leaves the programs as they are. -/
def CompiledRule.patchedAt (id : String) (patch : RulePatch) (now : Instant) (compiled : CompiledRule) :
    CompiledRule :=
  { compiled with rule := compiled.rule.patchedAt id patch now }

namespace Snapshot

variable {snapshot changed : Snapshot} {id : String} {patch : RulePatch} {now : Instant} {rule : Rule}

/-- Where the patched rule has the conditions of the old one, it is compiled to the programs of the old one. -/
theorem replaceFirst_in_place (distinct : ((snapshot.rules.map CompiledRule.rule).map Rule.id).Nodup)
    (aligned : snapshot.Aligned) (sameConditions : patch.conditions = none) (found : snapshot.find? id = some rule)
    {compiled : CompiledRule} (compiles : CompiledRule.compile (rule.patched patch now) = .ok compiled) :
    replaceFirst id compiled snapshot.rules = snapshot.rules.map (CompiledRule.patchedAt id patch now) := by
  obtain ⟨member, named⟩ := find?_eq_some found
  rw [replaceFirst_eq_map distinct]
  refine List.map_congr_left (fun stored storedMember => ?_)
  rw [CompiledRule.patchedAt]
  by_cases same : stored.rule.id = id
  · obtain rfl : stored.rule = rule :=
      Rule.eq_of_id_eq distinct (List.mem_map_of_mem storedMember) member (same.trans named.symm)
    have conditions : (stored.rule.patched patch now).conditions = stored.rule.conditions := by
      simp only [Rule.patched, sameConditions, Option.getD_none]
    have again := (aligned stored storedMember).compile_eq conditions
    rw [if_pos same, Rule.patchedAt_of_named same]
    exact Except.ok.inj (compiles.symm.trans again)
  · rw [if_neg same, Rule.patchedAt_of_other same]

/-- A patch that names neither a priority nor conditions changes a rule in its place, and its programs stay. -/
theorem rules_of_update_in_place (wellFormed : snapshot.WellFormed) (aligned : snapshot.Aligned)
    (samePriority : patch.priority = none) (sameConditions : patch.conditions = none)
    (success : snapshot.update id patch now = .ok (rule, changed)) :
    changed.rules = snapshot.rules.map (CompiledRule.patchedAt id patch now) := by
  obtain ⟨old, compiled, found, rfl, _, compiles, rfl⟩ := update_eq_ok_iff.1 success
  have inPlace := replaceFirst_in_place wellFormed.kept.distinct aligned sameConditions found compiles
  have ascending : Rule.Ascending ((snapshot.rules.map (CompiledRule.patchedAt id patch now)).map
      CompiledRule.rule) := by
    have priority (stored : CompiledRule) :
        (stored.patchedAt id patch now).rule.priority = stored.rule.priority :=
      stored.rule.priority_patchedAt samePriority
    have before := wellFormed.ascending
    simpa only [Rule.Ascending, plainRules, List.pairwise_map, priority] using before
  change CompiledRule.byPriority (replaceFirst id compiled snapshot.rules) = _
  rw [inPlace]
  exact CompiledRule.byPriority_of_ascending ascending

/-- Where a rule is inactive, the active rules are those among the others. -/
theorem activeRules_of_inactive
    (inactive : ∀ compiled ∈ snapshot.rules, compiled.rule.id = id → compiled.rule.active = false) :
    snapshot.activeRules = (snapshot.without id).filter (fun compiled => compiled.rule.active) := by
  rw [activeRules, without, List.filter_filter]
  refine List.filter_congr (fun compiled member => ?_)
  by_cases named : compiled.rule.id = id
  · simp [inactive compiled member named]
  · simp [named]

/-- A rule that was active, was switched off and is switched on again stands where it stood; only the time of its
last change is a new one. -/
theorem rules_of_switched {paused resumed : Snapshot} {pausedAt resumedAt : Instant} {answer : Rule}
    (wellFormed : snapshot.WellFormed) (aligned : snapshot.Aligned) (member : rule ∈ snapshot.plainRules)
    (active : rule.active = true)
    (pauses : snapshot.update rule.id (.activity false) pausedAt = .ok (answer, paused))
    {last : Rule} (resumes : paused.update rule.id (.activity true) resumedAt = .ok (last, resumed)) :
    resumed.rules = snapshot.rules.map (CompiledRule.restamped rule.id resumedAt) := by
  rw [rules_of_update_in_place (wellFormed_of_update wellFormed pauses) (aligned_of_update aligned pauses) rfl rfl
    resumes, rules_of_update_in_place wellFormed aligned rfl rfl pauses, List.map_map]
  refine List.map_congr_left (fun stored storedMember => ?_)
  have wasActive (named : stored.rule.id = rule.id) : stored.rule.active = true := by
    rw [Rule.eq_of_id_eq wellFormed.kept.distinct (List.mem_map_of_mem storedMember) member named, active]
  exact congrArg (CompiledRule.mk · stored.programs) (stored.rule.patchedAt_switched wasActive)

/-- Once a rule is switched off, the active rules are those that its deletion leaves. -/
theorem activeRules_of_switched_off {paused left : Snapshot} {pausedAt deletedAt : Instant} {answer : Rule}
    (wellFormed : snapshot.WellFormed) (pauses : snapshot.update id (.activity false) pausedAt = .ok (answer, paused))
    (deletes : snapshot.delete id deletedAt = .ok (rule, left)) : paused.activeRules = left.activeRules := by
  obtain ⟨old, _, _, same, _⟩ := update_eq_ok_iff.1 pauses
  obtain ⟨_, updated⟩ := updated_of_update wellFormed pauses
  obtain ⟨member, named⟩ := find?_eq_some updated.given
  have distinct := (wellFormed_of_update wellFormed pauses).kept.distinct
  have inactive : ∀ compiled ∈ paused.rules, compiled.rule.id = id → compiled.rule.active = false := by
    intro compiled stored sameName
    rw [Rule.eq_of_id_eq distinct (List.mem_map_of_mem stored) member (sameName.trans named.symm), same]
    rfl
  rw [activeRules_of_inactive inactive, updated.others, ← (deleted_of_delete wellFormed deletes).left, activeRules]

end Snapshot

namespace Store

/-- Two stores under which every record is evaluated to one and the same outcome. -/
def EvaluatesAs (first second : Store) : Prop :=
  ∀ (record : Record) (options : Options) (now : Instant),
    evaluate first.activeRules record options now = evaluate second.activeRules record options now

/-- Two stores under which every record is evaluated to the same outcome but for the time at which a rule was changed
last; what is told of the outcomes is the same. -/
structure EvaluatesAsRestamped (id : String) (moment : Instant) (first second : Store) : Prop where
  outcome : ∀ (record : Record) (options : Options) (now : Instant),
    evaluate first.activeRules record options now =
      (evaluate second.activeRules record options now).map (Evaluation.restamped id moment)
  told : ∀ (record : Record) (options : Options) (now : Instant),
    (evaluate first.activeRules record options now).map Evaluation.told =
      (evaluate second.activeRules record options now).map Evaluation.told

theorem evaluatesAsRestamped_of_activeRules {id : String} {moment : Instant} {first second : Store}
    (restamped : first.activeRules = second.activeRules.map (CompiledRule.restamped id moment)) :
    EvaluatesAsRestamped id moment first second := by
  have outcome (record : Record) (options : Options) (now : Instant) :
      evaluate first.activeRules record options now =
        (evaluate second.activeRules record options now).map (Evaluation.restamped id moment) := by
    rw [restamped, evaluate_restamped]
  refine ⟨outcome, fun record options now => ?_⟩
  rw [outcome record options now]
  cases evaluate second.activeRules record options now with
  | error error => rfl
  | ok evaluation => exact congrArg Except.ok (evaluation.told_restamped id moment)

/-- Whatever rule is in force, it can be switched off and it can be deleted, and every record fares alike after the
one and the other. If the rule was active, it can be switched on again, and then every record fares as at first. -/
theorem pausing_evaluates_as_deleting {store : Store} (reachable : store.Reachable) {snapshot : Snapshot}
    (present : store.snapshot = some snapshot) {rule : Rule} (member : rule ∈ snapshot.plainRules)
    (pausedAt deletedAt resumedAt : Instant) :
    ∃ paused left,
      store.update rule.id (.activity false) pausedAt =
          .ok ({ rule with active := false, updatedAt := pausedAt }, paused) ∧
        store.delete rule.id deletedAt = .ok (rule, left) ∧ paused.EvaluatesAs left ∧
          (rule.active = true → ∃ resumed,
            paused.update rule.id (.activity true) resumedAt = .ok ({ rule with updatedAt := resumedAt }, resumed) ∧
              resumed.EvaluatesAsRestamped rule.id resumedAt store) := by
  have wellFormed := reachable.wellFormed snapshot present
  have aligned := invariant_aligned.reachable reachable present
  have formed := wellFormed.kept.rules rule member
  obtain ⟨paused, pauses⟩ := Snapshot.exists_update wellFormed member (formed.activity false pausedAt)
  obtain ⟨left, deletes⟩ := Snapshot.exists_delete wellFormed member deletedAt
  refine ⟨⟨some paused⟩, ⟨some left⟩, update_eq_ok_iff.2 ⟨snapshot, paused, present, pauses, rfl⟩,
    delete_eq_ok_iff.2 ⟨snapshot, left, present, deletes, rfl⟩, ?_, ?_⟩
  · intro record options now
    exact congrArg (evaluate · record options now)
      (Snapshot.activeRules_of_switched_off wellFormed pauses deletes)
  · intro active
    obtain ⟨_, updated⟩ := Snapshot.updated_of_update wellFormed pauses
    obtain ⟨resumed, resumes⟩ := Snapshot.exists_update (Snapshot.wellFormed_of_update wellFormed pauses)
      (Snapshot.find?_eq_some updated.given).1 ((formed.activity false pausedAt).activity true resumedAt)
    have restored := Snapshot.rules_of_switched wellFormed aligned member active pauses resumes
    rw [Rule.patched_switched active] at resumes
    refine ⟨⟨some resumed⟩, update_eq_ok_iff.2 ⟨paused, resumed, rfl, resumes, rfl⟩,
      evaluatesAsRestamped_of_activeRules ?_⟩
    change resumed.activeRules = store.activeRules.map _
    rw [activeRules, present, Option.elim_some, Snapshot.activeRules, Snapshot.activeRules, restored,
      List.filter_map]
    rfl

theorem tied_rule_paused :
    (empty.afterAll tiedChanges).Reachable ∧ (amountRule "b" 5).active = true ∧
      ∃ snapshot, (empty.afterAll tiedChanges).snapshot = some snapshot ∧
        amountRule "b" 5 ∈ snapshot.plainRules ∧ ∃ paused left resumed,
          (empty.afterAll tiedChanges).update "b" (.activity false) ⟨1, 0⟩ =
              .ok ({ amountRule "b" 5 with active := false, updatedAt := ⟨1, 0⟩ }, paused) ∧
            (empty.afterAll tiedChanges).delete "b" ⟨2, 0⟩ = .ok (amountRule "b" 5, left) ∧
              paused.EvaluatesAs left ∧
                paused.update "b" (.activity true) ⟨3, 0⟩ =
                    .ok ({ amountRule "b" 5 with updatedAt := ⟨3, 0⟩ }, resumed) ∧
                  resumed.EvaluatesAsRestamped "b" ⟨3, 0⟩ (empty.afterAll tiedChanges) := by
  have reachable : (empty.afterAll tiedChanges).Reachable := ⟨tiedChanges, rfl⟩
  have rules : (empty.afterAll tiedChanges).snapshot.map Snapshot.plainRules =
      some [amountRule "a" 1, amountRule "b" 5, amountRule "c" 5] := by cbv
  obtain ⟨snapshot, present, listed⟩ := Option.map_eq_some_iff.1 rules
  have member : amountRule "b" 5 ∈ snapshot.plainRules := by
    rw [listed]
    exact List.mem_cons_of_mem _ List.mem_cons_self
  obtain ⟨paused, left, pauses, deletes, alike, resumes⟩ :=
    pausing_evaluates_as_deleting reachable present member ⟨1, 0⟩ ⟨2, 0⟩ ⟨3, 0⟩
  obtain ⟨resumed, resumes, restored⟩ := resumes rfl
  exact ⟨reachable, rfl, snapshot, present, member, paused, left, resumed, pauses, deletes, alike, resumes, restored⟩

end Store

end Verdict
