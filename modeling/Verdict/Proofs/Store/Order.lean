import Mathlib.Data.List.Nodup
import Verdict.Proofs.Sorting
import Verdict.Proofs.Store.Compilation
/-!
The order of rules: by ascending priority, and of one priority as they stood before. Two rules keep their
order through a sort exactly if their priorities do not force the other one.
-/

namespace Verdict

/-- Rules by ascending priority; of one priority, in the order in which they stand. -/
def Rule.byPriority (rules : List Rule) : List Rule :=
  rules.mergeSort (fun left right => decide (left.priority ≤ right.priority))

/-- Rules in ascending priority. -/
def Rule.Ascending (rules : List Rule) : Prop :=
  rules.Pairwise (fun left right => left.priority ≤ right.priority)

/-- Sorting compiled rules sorts the rules in them. -/
theorem CompiledRule.map_rule_byPriority (rules : List CompiledRule) :
    (byPriority rules).map rule = Rule.byPriority (rules.map rule) :=
  List.map_mergeSort (fun _ _ _ _ => rfl)

theorem CompiledRule.filter_byPriority (rules : List CompiledRule) (keeps : CompiledRule → Bool) :
    (byPriority rules).filter keeps = byPriority (rules.filter keeps) :=
  Sorting.filter_byKey (fun compiled : CompiledRule => compiled.rule.priority) rules keeps

theorem CompiledRule.byPriority_of_ascending {rules : List CompiledRule}
    (ascending : Rule.Ascending (rules.map rule)) : byPriority rules = rules := by
  rw [Rule.Ascending, List.pairwise_map] at ascending
  exact Sorting.byKey_of_ascending (fun compiled : CompiledRule => compiled.rule.priority) ascending

namespace Rule

theorem byPriority_perm (rules : List Rule) : (byPriority rules).Perm rules :=
  Sorting.byKey_perm priority rules

theorem ascending_byPriority (rules : List Rule) : Ascending (byPriority rules) :=
  Sorting.ascending_byKey priority rules

theorem byPriority_of_ascending {rules : List Rule} (ascending : Ascending rules) :
    byPriority rules = rules :=
  Sorting.byKey_of_ascending priority ascending

/-- The rule named `first` stands before the rule named `second`. -/
def Before (rules : List Rule) (first second : String) : Prop :=
  [first, second].Sublist (rules.map Rule.id)

theorem Before.members {rules : List Rule} {first second : String} (before : Before rules first second) :
    first ∈ rules.map Rule.id ∧ second ∈ rules.map Rule.id :=
  ⟨before.subset List.mem_cons_self, before.subset (List.mem_cons_of_mem _ List.mem_cons_self)⟩

/-- The priority of the rule of a name, if there is one. -/
def priorityOf (rules : List Rule) (id : String) : Option Int32 :=
  (rules.find? (fun rule => rule.id == id)).map priority

theorem pair_sublist_cons_iff {first second other : String} {rest : List String} :
    [first, second].Sublist (other :: rest) ↔
      [first, second].Sublist rest ∨ first = other ∧ second ∈ rest := by
  rw [List.sublist_cons_iff]
  simp

theorem pair_sublist_asymm {names : List String} (distinct : names.Nodup) {first second : String}
    (forward : [first, second].Sublist names) : ¬[second, first].Sublist names := by
  induction names with
  | nil => cases forward
  | cons other rest ih =>
    obtain ⟨fresh, distinct⟩ := List.nodup_cons.1 distinct
    rw [pair_sublist_cons_iff] at forward ⊢
    intro swapped
    rcases swapped with backward | ⟨rfl, later⟩
    · rcases forward with forward | ⟨rfl, _⟩
      · exact ih distinct forward backward
      · exact fresh (backward.subset (by simp))
    · rcases forward with forward | ⟨rfl, later⟩
      · exact fresh (forward.subset (by simp))
      · exact fresh later

theorem pair_sublist_total {names : List String} {first second : String} (different : first ≠ second)
    (firstMember : first ∈ names) (secondMember : second ∈ names) :
    [first, second].Sublist names ∨ [second, first].Sublist names := by
  induction names with
  | nil => cases firstMember
  | cons other rest ih =>
    rw [pair_sublist_cons_iff, pair_sublist_cons_iff]
    rcases List.mem_cons.1 firstMember with rfl | firstLater
    · have secondLater := (List.mem_cons.1 secondMember).resolve_left different.symm
      exact .inl (.inr ⟨rfl, secondLater⟩)
    · rcases List.mem_cons.1 secondMember with rfl | secondLater
      · exact .inr (.inr ⟨rfl, firstLater⟩)
      · exact (ih firstLater secondLater).imp .inl .inl

section

variable {rules : List Rule} (distinct : (rules.map Rule.id).Nodup)

include distinct

theorem Before.ne {first second : String} (before : Before rules first second) : first ≠ second := by
  rintro rfl
  exact List.nodup_iff_sublist.1 distinct first before

theorem eq_of_id_eq {first second : Rule} (firstMember : first ∈ rules) (secondMember : second ∈ rules)
    (same : first.id = second.id) : first = second :=
  List.inj_on_of_nodup_map distinct firstMember secondMember same

theorem find?_id_eq_some {rule : Rule} (member : rule ∈ rules) :
    rules.find? (fun other => other.id == rule.id) = some rule := by
  cases found : rules.find? (fun other => other.id == rule.id) with
  | none => simpa using List.find?_eq_none.1 found rule member
  | some other =>
    have same : other.id = rule.id := by simpa using List.find?_some found
    rw [eq_of_id_eq distinct (List.mem_of_find?_eq_some found) member same]

theorem priorityOf_of_mem {rule : Rule} (member : rule ∈ rules) :
    priorityOf rules rule.id = some rule.priority := by
  rw [priorityOf, find?_id_eq_some distinct member, Option.map_some]

theorem before_iff_sublist {first second : Rule} (firstMember : first ∈ rules)
    (secondMember : second ∈ rules) :
    Before rules first.id second.id ↔ [first, second].Sublist rules := by
  constructor
  · intro before
    obtain ⟨pair, sublist, same⟩ := List.sublist_map_iff.1 before
    obtain ⟨left, later, rfl, leftSame, laterSame⟩ := List.map_eq_cons_iff.1 same.symm
    obtain ⟨right, rfl, rightSame⟩ := List.map_eq_singleton_iff.1 laterSame
    rw [← eq_of_id_eq distinct (sublist.subset (by simp)) firstMember leftSame,
      ← eq_of_id_eq distinct (sublist.subset (by simp)) secondMember rightSame]
    exact sublist
  · exact fun sublist => sublist.map Rule.id

/-- After a sort one rule stands before another exactly if its priority is smaller, or equal and it stood
before it. -/
theorem before_byPriority_iff {first second : Rule} (firstMember : first ∈ rules)
    (secondMember : second ∈ rules) (different : first.id ≠ second.id) :
    Before (byPriority rules) first.id second.id ↔
      first.priority < second.priority ∨
        first.priority = second.priority ∧ Before rules first.id second.id := by
  have sortedDistinct : ((byPriority rules).map Rule.id).Nodup :=
    ((byPriority_perm rules).map Rule.id).nodup_iff.2 distinct
  have firstSorted := (byPriority_perm rules).mem_iff.2 firstMember
  have secondSorted := (byPriority_perm rules).mem_iff.2 secondMember
  have ascending {left right : Rule} (sublist : [left, right].Sublist (byPriority rules)) :
      left.priority ≤ right.priority :=
    List.pairwise_iff_forall_sublist.1 (ascending_byPriority rules) sublist
  have stable {left right : Rule} (lower : left.priority ≤ right.priority)
      (sublist : [left, right].Sublist rules) : [left, right].Sublist (byPriority rules) :=
    List.pair_sublist_mergeSort (Sorting.key_le_trans priority) (Sorting.key_le_total priority)
      (decide_eq_true lower) sublist
  constructor
  · intro before
    have lower := ascending ((before_iff_sublist sortedDistinct firstSorted secondSorted).1 before)
    rcases Int32.lt_or_eq_of_le lower with less | equal
    · exact .inl less
    · refine .inr ⟨equal, ?_⟩
      rcases pair_sublist_total different (List.mem_map_of_mem firstMember)
        (List.mem_map_of_mem secondMember) with forward | backward
      · exact forward
      · have earlier := (before_iff_sublist distinct secondMember firstMember).1 backward
        have swapped := stable (Int32.le_of_eq equal.symm) earlier
        exact absurd (swapped.map Rule.id) (pair_sublist_asymm sortedDistinct before)
  · intro order
    rcases order with less | ⟨equal, before⟩
    · rcases pair_sublist_total different (List.mem_map_of_mem firstSorted)
        (List.mem_map_of_mem secondSorted) with forward | backward
      · exact forward
      · have upper := ascending ((before_iff_sublist sortedDistinct secondSorted firstSorted).1 backward)
        exact absurd less (Int32.not_lt.2 upper)
    · have earlier := (before_iff_sublist distinct firstMember secondMember).1 before
      exact (stable (Int32.le_of_eq equal) earlier).map Rule.id

end

/-- Taking other rules out leaves the order of two rules. -/
theorem before_filter_iff {rules : List Rule} {id first second : String} (firstKept : first ≠ id)
    (secondKept : second ≠ id) :
    Before (rules.filter (fun rule => rule.id != id)) first second ↔ Before rules first second := by
  have names : (rules.filter (fun rule => rule.id != id)).map Rule.id =
      (rules.map Rule.id).filter (· != id) := by
    rw [List.filter_map]
    rfl
  rw [Before, names]
  constructor
  · exact fun sublist => sublist.trans List.filter_sublist
  · intro sublist
    have kept := sublist.filter (· != id)
    rwa [List.filter_eq_self.2 (by simp [firstKept, secondKept])] at kept

end Rule

end Verdict
