import Mathlib.Data.List.Induction
import Verdict.Proofs.Store.Invariant
/-!
The order of rules of equal priority. An edit works on a rule in its place and then sorts, so two rules
keep the order that their priorities had when these last differed: a rule whose priority was changed and
changed back does not return to its declared place.
-/

namespace Verdict

open Time (Instant)

/-- A change of one rule of a store. -/
inductive Edit where
  | update (id : String) (patch : RulePatch)
  | delete (id : String)
deriving Repr

namespace Edit

/-- An edit as a change of a store. -/
def change : Edit → Store.Change
  | update id patch => .update id patch
  | delete id => .delete id

/-- A rule after a patch of the rule of a name, which is refused if it breaks a constraint. -/
def revised (id : String) (patch : RulePatch) (now : Instant) (rule : Rule) : Rule :=
  match (rule.patchedAt id patch now).validate with
  | .ok () => rule.patchedAt id patch now
  | .error _ => rule

/-- What an edit leaves of a list of rules, each in its place. -/
def applied (edit : Edit) (now : Instant) (rules : List Rule) : List Rule :=
  match edit with
  | update id patch => rules.map (revised id patch now)
  | delete id => rules.filter (fun rule => rule.id != id)

/-- What edits leave of the declared rules, in the order of their declaration. -/
def survivors (declared : List Rule) (edits : List (Edit × Instant)) : List Rule :=
  edits.foldl (fun rules (edit, now) => edit.applied now rules) declared

/-- The rule `second` has overtaken the rule `first`: at some moment its priority was the smaller one, and
at every later moment the two priorities were equal. -/
def Overtaken (declared : List Rule) (edits : List (Edit × Instant)) (first second : String) : Prop :=
  ∃ past recent, past ++ recent = edits ∧
    Rule.priorityOf (survivors declared past) second < Rule.priorityOf (survivors declared past) first ∧
      ∀ start, start <+: recent → start ≠ [] →
        Rule.priorityOf (survivors declared (past ++ start)) first =
          Rule.priorityOf (survivors declared (past ++ start)) second

end Edit

/-- A store after edits at their times, in their order. -/
def Store.edited (store : Store) (edits : List (Edit × Instant)) : Store :=
  store.afterAll (edits.map (fun (edit, now) => (edit.change, now)))

theorem Store.edited_concat (store : Store) (edits : List (Edit × Instant)) (edit : Edit) (now : Instant) :
    store.edited (edits ++ [(edit, now)]) = (store.edited edits).after edit.change now := by
  rw [edited, List.map_append, afterAll_append]
  rfl

namespace Edit

theorem survivors_concat (declared : List Rule) (edits : List (Edit × Instant)) (edit : Edit)
    (now : Instant) :
    survivors declared (edits ++ [(edit, now)]) = edit.applied now (survivors declared edits) := by
  rw [survivors, List.foldl_append]
  rfl

/-- Two rules are in the order of their current priorities, or of equal priority and in the order that
they had before. -/
theorem overtaken_concat_iff {declared : List Rule} {edits : List (Edit × Instant)}
    {last : Edit × Instant} {first second : String} :
    Overtaken declared (edits ++ [last]) first second ↔
      Rule.priorityOf (survivors declared (edits ++ [last])) second <
          Rule.priorityOf (survivors declared (edits ++ [last])) first ∨
        Rule.priorityOf (survivors declared (edits ++ [last])) first =
          Rule.priorityOf (survivors declared (edits ++ [last])) second ∧
            Overtaken declared edits first second := by
  constructor
  · intro overtaken
    obtain ⟨past, recent, whole, smaller, since⟩ := overtaken
    rcases List.eq_nil_or_concat' recent with rfl | ⟨recent, final, rfl⟩
    · rw [List.append_nil] at whole
      exact .inl (whole ▸ smaller)
    · rw [← List.append_assoc] at whole
      obtain ⟨rfl, same⟩ := List.append_inj' whole rfl
      refine .inr ⟨?_, past, recent, rfl, smaller, fun start begins => ?_⟩
      · rw [← whole, List.append_assoc]
        exact since _ (List.prefix_refl _) (by simp)
      · exact since start (begins.trans (List.prefix_append _ _))
  · intro order
    rcases order with smaller | ⟨equal, past, recent, rfl, smaller, since⟩
    · refine ⟨edits ++ [last], [], List.append_nil _, smaller, fun start begins nonempty => ?_⟩
      exact absurd (List.prefix_nil.1 begins) nonempty
    · refine ⟨past, recent ++ [last], (List.append_assoc ..).symm, smaller, fun start begins nonempty => ?_⟩
      rcases List.prefix_concat_iff.1 begins with rfl | begins
      · rw [← List.append_assoc]
        exact equal
      · exact since start begins nonempty

theorem overtaken_nil_iff {declared : List Rule} {first second : String} :
    Overtaken declared [] first second ↔
      Rule.priorityOf declared second < Rule.priorityOf declared first := by
  constructor
  · intro overtaken
    obtain ⟨past, recent, whole, smaller, _⟩ := overtaken
    obtain ⟨rfl, rfl⟩ := List.append_eq_nil_iff.1 whole
    exact smaller
  · intro smaller
    exact ⟨[], [], rfl, smaller, fun start begins nonempty => absurd (List.prefix_nil.1 begins) nonempty⟩

theorem applied_perm {rules others : List Rule} (same : rules.Perm others) (edit : Edit) (now : Instant) :
    (edit.applied now rules).Perm (edit.applied now others) := by
  cases edit with
  | update id patch => exact same.map _
  | delete id => exact same.filter _

theorem revised_id (id : String) (patch : RulePatch) (now : Instant) (rule : Rule) :
    (revised id patch now rule).id = rule.id := by
  unfold revised
  split
  · exact Rule.patchedAt_id id patch now rule
  · rfl

/-- An edit leaves the order of the rules that survive it. -/
theorem before_applied_iff {rules : List Rule} {edit : Edit} {now : Instant} {first second : String}
    (firstMember : first ∈ (edit.applied now rules).map Rule.id)
    (secondMember : second ∈ (edit.applied now rules).map Rule.id) :
    Rule.Before (edit.applied now rules) first second ↔ Rule.Before rules first second := by
  cases edit with
  | update id patch =>
    have names : (rules.map (revised id patch now)).map Rule.id = rules.map Rule.id := by
      rw [List.map_map]
      exact List.map_congr_left (fun rule _ => revised_id id patch now rule)
    rw [Rule.Before, applied, names, Rule.Before]
  | delete id =>
    have kept {name : String} (member : name ∈ (applied (.delete id) now rules).map Rule.id) :
        name ≠ id := by
      obtain ⟨rule, present, rfl⟩ := List.mem_map.1 member
      simpa using (List.mem_filter.1 present).2
    exact Rule.before_filter_iff (kept firstMember) (kept secondMember)

/-- On well-formed rules a patch that is refused changes nothing, and one that is accepted changes the
rule of its name alone. -/
theorem map_revised {rules : List Rule} {id : String} {patch : RulePatch} {now : Instant}
    (wellFormed : ∀ rule ∈ rules, rule.WellFormed) :
    ((∀ rule ∈ rules, rule.id = id → (rule.patched patch now).WellFormed) →
        rules.map (revised id patch now) = rules.map (Rule.patchedAt id patch now)) ∧
      ((∀ rule ∈ rules, rule.id = id → ¬(rule.patched patch now).WellFormed) →
        rules.map (revised id patch now) = rules) := by
  constructor
  · intro accepted
    refine List.map_congr_left (fun rule member => ?_)
    have valid : (rule.patchedAt id patch now).validate = .ok () := by
      apply Rule.validate_eq_ok_iff.2
      by_cases named : rule.id = id
      · rw [Rule.patchedAt_of_named named]
        exact accepted rule member named
      · rw [Rule.patchedAt_of_other named]
        exact wellFormed rule member
    simp only [revised, valid]
  · intro refused
    refine (List.map_congr_left (fun rule member => ?_)).trans (List.map_id' rules)
    unfold revised
    split
    next valid =>
      by_cases named : rule.id = id
      · rw [Rule.patchedAt_of_named named] at valid
        exact absurd (Rule.validate_eq_ok_iff.1 valid) (refused rule member named)
      · exact Rule.patchedAt_of_other named patch now
    next => rfl

section

variable {store : Store} {snapshot : Snapshot} (present : store.snapshot = some snapshot)
  (wellFormed : snapshot.WellFormed)

include present wellFormed

theorem plainRules_after_update (id : String) (patch : RulePatch) (now : Instant) :
    ∃ changed, (store.after (.update id patch) now).snapshot = some changed ∧
      changed.plainRules = Rule.byPriority (snapshot.plainRules.map (revised id patch now)) := by
  have formed : ∀ rule ∈ snapshot.plainRules, rule.WellFormed := wellFormed.kept.rules
  cases outcome : store.update id patch now with
  | ok result =>
    obtain ⟨rule, after⟩ := result
    obtain ⟨before, changed, same, success, rfl⟩ := Store.update_eq_ok_iff.1 outcome
    cases present.symm.trans same
    obtain ⟨old, member, named, rfl, accepted, _, _, rules⟩ := Snapshot.update_eq_ok wellFormed success
    refine ⟨changed, by simp only [Store.after, outcome, Store.orElse], ?_⟩
    rw [rules, (map_revised formed).1]
    intro other otherMember sameName
    rwa [Rule.eq_of_id_eq wellFormed.kept.distinct otherMember member (sameName.trans named.symm)]
  | error error =>
    refine ⟨snapshot, by simp only [Store.after, outcome, Store.orElse, present], ?_⟩
    rw [(map_revised formed).2, Rule.byPriority_of_ascending wellFormed.ascending]
    rintro rule member rfl accepted
    obtain ⟨changed, success⟩ := Snapshot.exists_update wellFormed member accepted
    cases outcome.symm.trans (Store.update_eq_ok_iff.2 ⟨snapshot, changed, present, success, rfl⟩)

theorem plainRules_after_delete (id : String) (now : Instant) :
    ∃ changed, (store.after (.delete id) now).snapshot = some changed ∧
      changed.plainRules = Rule.byPriority (snapshot.plainRules.filter (fun rule => rule.id != id)) := by
  rw [Rule.byPriority_of_ascending (wellFormed.ascending.filter _)]
  cases outcome : store.delete id now with
  | ok result =>
    obtain ⟨rule, after⟩ := result
    obtain ⟨before, changed, same, success, rfl⟩ := Store.delete_eq_ok_iff.1 outcome
    cases present.symm.trans same
    obtain ⟨_, _, _, _, rules⟩ := Snapshot.delete_eq_ok wellFormed success
    exact ⟨changed, by simp only [Store.after, outcome, Store.orElse], rules⟩
  | error error =>
    refine ⟨snapshot, by simp only [Store.after, outcome, Store.orElse, present], ?_⟩
    refine (List.filter_eq_self.2 (fun rule member => bne_iff_ne.2 ?_)).symm
    rintro rfl
    obtain ⟨changed, success⟩ := Snapshot.exists_delete wellFormed member now
    cases outcome.symm.trans (Store.delete_eq_ok_iff.2 ⟨snapshot, changed, present, success, rfl⟩)

/-- An edit changes rules in their places and sorts them again; an edit that fails does nothing, which is
the same. -/
theorem plainRules_after (edit : Edit) (now : Instant) :
    ∃ changed, (store.after edit.change now).snapshot = some changed ∧
      changed.plainRules = Rule.byPriority (edit.applied now snapshot.plainRules) := by
  cases edit with
  | update id patch => exact plainRules_after_update present wellFormed id patch now
  | delete id => exact plainRules_after_delete present wellFormed id now

end

/-- The rules in force are the survivors of the declared rules, and a declared order is turned round
exactly if the later rule has overtaken the earlier one. -/
structure Follows (declared : List Rule) (edits : List (Edit × Instant)) (rules : List Rule) : Prop where
  perm : rules.Perm (survivors declared edits)
  order : ∀ first second, Rule.Before (survivors declared edits) first second →
    (Rule.Before rules second first ↔ Overtaken declared edits first second)

/-- A sort of rules that hold the survivors in an earlier order follows the edits if the earlier order
accounts for equal priorities. -/
theorem before_byPriority_iff_of_perm {rules survived : List Rule} (perm : rules.Perm survived)
    (distinct : (rules.map Rule.id).Nodup) {first second : String}
    (before : Rule.Before survived first second) :
    Rule.Before (Rule.byPriority rules) second first ↔
      Rule.priorityOf survived second < Rule.priorityOf survived first ∨
        Rule.priorityOf survived first = Rule.priorityOf survived second ∧
          Rule.Before rules second first := by
  have survivedDistinct := (perm.map Rule.id).nodup_iff.1 distinct
  obtain ⟨left, leftMember, rfl⟩ := List.mem_map.1 before.members.1
  obtain ⟨right, rightMember, rfl⟩ := List.mem_map.1 before.members.2
  have different : right.id ≠ left.id := (Rule.Before.ne survivedDistinct before).symm
  rw [Rule.before_byPriority_iff distinct (perm.mem_iff.2 rightMember) (perm.mem_iff.2 leftMember) different,
    Rule.priorityOf_of_mem survivedDistinct leftMember, Rule.priorityOf_of_mem survivedDistinct rightMember,
    Option.some_lt_some, Option.some.injEq, @eq_comm _ left.priority]

theorem follows_nil {declared : List Rule} (distinct : (declared.map Rule.id).Nodup) :
    Follows declared [] (Rule.byPriority declared) := by
  refine ⟨Rule.byPriority_perm declared, fun first second before => ?_⟩
  rw [before_byPriority_iff_of_perm (List.Perm.refl _) distinct before, overtaken_nil_iff]
  exact or_iff_left (fun ⟨_, backward⟩ => Rule.pair_sublist_asymm distinct before backward)

theorem Follows.concat {declared rules : List Rule} {edits : List (Edit × Instant)} {edit : Edit}
    {now : Instant} (follows : Follows declared edits rules)
    (distinct : ((edit.applied now rules).map Rule.id).Nodup) :
    Follows declared (edits ++ [(edit, now)]) (Rule.byPriority (edit.applied now rules)) := by
  have perm := applied_perm follows.perm edit now
  rw [← survivors_concat] at perm
  refine ⟨(Rule.byPriority_perm _).trans perm, fun first second before => ?_⟩
  obtain ⟨firstMember, secondMember⟩ := before.members
  have firstInPlace := (perm.map Rule.id).mem_iff.2 firstMember
  have secondInPlace := (perm.map Rule.id).mem_iff.2 secondMember
  have earlier : Rule.Before (survivors declared edits) first second := by
    rw [survivors_concat] at before firstMember secondMember
    exact (before_applied_iff firstMember secondMember).1 before
  rw [before_byPriority_iff_of_perm perm distinct before, before_applied_iff secondInPlace firstInPlace,
    follows.order first second earlier, overtaken_concat_iff]

theorem exists_follows {declared : List Rule} {store : Store} {snapshot : Snapshot}
    (present : store.snapshot = some snapshot) (wellFormed : store.WellFormed)
    (sorted : snapshot.plainRules = Rule.byPriority declared) (edits : List (Edit × Instant)) :
    ∃ final, (store.edited edits).snapshot = some final ∧ Follows declared edits final.plainRules := by
  induction edits using List.reverseRecOn with
  | nil =>
    have distinct := (wellFormed snapshot present).kept.distinct
    refine ⟨snapshot, present, ?_⟩
    rw [sorted]
    refine follows_nil (((Rule.byPriority_perm declared).map Rule.id).nodup_iff.1 ?_)
    rw [← sorted]
    exact distinct
  | append_singleton edits last ih =>
    obtain ⟨edit, now⟩ := last
    obtain ⟨final, reached, follows⟩ := ih
    have edited : (store.edited edits).WellFormed := wellFormed.afterAll _
    obtain ⟨changed, after, rules⟩ := plainRules_after reached (edited final reached) edit now
    have changedFormed := edited.after edit.change now changed after
    refine ⟨changed, by rw [Store.edited_concat, after], ?_⟩
    rw [rules]
    refine follows.concat (((Rule.byPriority_perm _).map Rule.id).nodup_iff.1 ?_)
    rw [← rules]
    exact changedFormed.kept.distinct

/-- After a rule set is saved and then edited, the rules in force are exactly the survivors of the declared
rules, in ascending priority. Two survivors of equal priority stand in their declared order exactly if the
later one has not overtaken the earlier one. -/
theorem ties_keep_declared_order_iff {store saved : Store} {ruleSet : RuleSet} {savedAt : Instant}
    {snapshot : Snapshot} (success : store.save ruleSet savedAt = .ok (snapshot, saved))
    (edits : List (Edit × Instant)) :
    ∃ final, (saved.edited edits).snapshot = some final ∧
      final.plainRules.Perm (survivors ruleSet.rules edits) ∧
      final.plainRules.Pairwise (fun left right => left.priority ≤ right.priority) ∧
      ∀ first second, [first, second].Sublist (survivors ruleSet.rules edits) →
        first.priority = second.priority →
          ([first, second].Sublist final.plainRules ↔
            ¬Overtaken ruleSet.rules edits first.id second.id) := by
  obtain ⟨made, rfl⟩ := Store.save_eq_ok_iff.1 success
  obtain ⟨_, _, _, sorted⟩ := Snapshot.ofRuleSet_eq_ok made
  have wellFormed : Store.WellFormed ⟨some snapshot⟩ := by
    intro present same
    cases same
    exact Snapshot.wellFormed_of_ofRuleSet made
  obtain ⟨final, reached, follows⟩ := exists_follows rfl wellFormed sorted edits
  have finalFormed : final.WellFormed := wellFormed.afterAll _ final reached
  have distinct : (final.plainRules.map Rule.id).Nodup := finalFormed.kept.distinct
  refine ⟨final, reached, follows.perm, finalFormed.ascending, fun first second declared _ => ?_⟩
  have before : Rule.Before (survivors ruleSet.rules edits) first.id second.id := declared.map Rule.id
  have members {rule : Rule} (member : rule ∈ [first, second]) : rule ∈ final.plainRules :=
    follows.perm.mem_iff.2 (declared.subset member)
  have firstMember := members List.mem_cons_self
  have secondMember := members (List.mem_cons_of_mem _ List.mem_cons_self)
  have different := Rule.Before.ne ((follows.perm.map Rule.id).nodup_iff.1 distinct) before
  rw [← follows.order first.id second.id before, ← Rule.before_iff_sublist distinct firstMember secondMember]
  constructor
  · exact fun forward => Rule.pair_sublist_asymm distinct forward
  · exact (Rule.pair_sublist_total different (List.mem_map_of_mem firstMember)
      (List.mem_map_of_mem secondMember)).resolve_right

/-- Two rules of one priority. -/
def tiedSet : RuleSet :=
  ⟨"1", ⟨"tied", none, none, none⟩, [Store.amountRule "a" 5, Store.amountRule "b" 5]⟩

/-- The two rules in force. -/
def tiedSnapshot : Snapshot :=
  ⟨"1", ⟨"tied", none, none, none⟩, ⟨0, 0⟩, tiedSet.rules.map (⟨·, [none]⟩)⟩

/-- The first rule is moved behind the second one and back. -/
def thereAndBack : List (Edit × Instant) :=
  [(.update "a" (Store.priorityPatch 9), ⟨1, 0⟩), (.update "a" (Store.priorityPatch 5), ⟨2, 0⟩)]

theorem tied_rules_saved_and_edited :
    Store.empty.save tiedSet ⟨0, 0⟩ = .ok (tiedSnapshot, ⟨some tiedSnapshot⟩) ∧
      ∃ final, (Store.edited ⟨some tiedSnapshot⟩ thereAndBack).snapshot = some final ∧
        final.plainRules.Perm (survivors tiedSet.rules thereAndBack) ∧
        final.plainRules.Pairwise (fun left right => left.priority ≤ right.priority) ∧
        ∀ first second, [first, second].Sublist (survivors tiedSet.rules thereAndBack) →
          first.priority = second.priority →
            ([first, second].Sublist final.plainRules ↔
              ¬Overtaken tiedSet.rules thereAndBack first.id second.id) := by
  have success : Store.empty.save tiedSet ⟨0, 0⟩ = .ok (tiedSnapshot, ⟨some tiedSnapshot⟩) := by cbv
  exact ⟨success, ties_keep_declared_order_iff success thereAndBack⟩

/-- A priority that is changed and changed back does not restore the declared order: both rules have
priority 5 again, and the one declared first now stands last. -/
theorem there_and_back_turns_ties_round :
    Store.empty.save tiedSet ⟨0, 0⟩ = .ok (tiedSnapshot, ⟨some tiedSnapshot⟩) ∧
      (survivors tiedSet.rules thereAndBack).map (fun rule => (rule.id, rule.priority)) =
        [("a", 5), ("b", 5)] ∧
      (Store.edited ⟨some tiedSnapshot⟩ thereAndBack).snapshot.map
        (fun final => final.plainRules.map (fun rule => (rule.id, rule.priority))) =
          some [("b", 5), ("a", 5)] :=
  ⟨by cbv, by cbv, by cbv⟩

end Edit

end Verdict
