import Verdict.Proofs.Rule.Shape
import Verdict.Proofs.Store.Invariant
/-!
What saving puts in force. Whatever rule set has been accepted can be saved in every store, and the store then
lists its rules by ascending priority, those of one priority as they were declared. No other list is in this
order.
-/

namespace Verdict

open Time (Instant)

namespace Rule

/-- The rules of one priority, as they stand. -/
def ofPriority (priority : Int32) (rules : List Rule) : List Rule :=
  rules.filter (fun rule => rule.priority == priority)

/-- Declared rules by ascending priority, those of one priority as they were declared. -/
structure StablySorted (declared sorted : List Rule) : Prop where
  perm : sorted.Perm declared
  ascending : Ascending sorted
  ties : ∀ priority, ofPriority priority sorted = ofPriority priority declared

theorem stablySorted_byPriority (rules : List Rule) : StablySorted rules (byPriority rules) where
  perm := byPriority_perm rules
  ascending := ascending_byPriority rules
  ties := fun _ => Sorting.ofKey_byKey

/-- The order of a stable sort is the only one of its kind. -/
theorem StablySorted.unique {declared first second : List Rule} (firstSorted : StablySorted declared first)
    (secondSorted : StablySorted declared second) : first = second :=
  Sorting.Ascending.eq_of_same_keys firstSorted.ascending secondSorted.ascending
    (fun priority => (firstSorted.ties priority).trans (secondSorted.ties priority).symm)

end Rule

/-- What a store lists after declared rules have been saved: them alone, each once, in the only stable order
by priority, and for evaluation the active ones among them. -/
structure Store.Lists (store : Store) (declared : List Rule) : Prop where
  sorted : Rule.StablySorted declared store.rules
  only : ∀ other, Rule.StablySorted declared other → other = store.rules
  once : store.rules.Nodup
  active : store.activeRules.map CompiledRule.rule = store.rules.filter Rule.active

theorem Snapshot.map_rule_activeRules (snapshot : Snapshot) :
    snapshot.activeRules.map CompiledRule.rule = snapshot.plainRules.filter Rule.active := by
  rw [activeRules, plainRules, List.filter_map]
  rfl

theorem Store.lists_of_ofRuleSet {ruleSet : RuleSet} {now : Instant} {snapshot : Snapshot}
    (success : Snapshot.ofRuleSet ruleSet now = .ok snapshot) : Store.Lists ⟨some snapshot⟩ ruleSet.rules := by
  obtain ⟨wellFormed, _, _, rules⟩ := Snapshot.ofRuleSet_eq_ok success
  have listed : Store.rules ⟨some snapshot⟩ = Rule.byPriority ruleSet.rules := rules
  constructor
  case sorted => rw [listed]; exact Rule.stablySorted_byPriority ruleSet.rules
  case only =>
    intro other sorted
    rw [listed]
    exact sorted.unique (Rule.stablySorted_byPriority ruleSet.rules)
  case once =>
    rw [listed, (Rule.byPriority_perm ruleSet.rules).nodup_iff]
    exact wellFormed.distinct.of_map
  case active => exact snapshot.map_rule_activeRules

/-- An accepted rule set can be saved in every store and at every time, and the store then lists its rules by
ascending priority, ties in the order of their declaration. -/
theorem accepted_rule_set_saves {payload : Json} {now : Instant} {ruleSet : RuleSet}
    (accepted : RuleSet.accept payload now = .ok ruleSet) (store : Store) (savedAt : Instant) :
    ∃ snapshot changed, store.save ruleSet savedAt = .ok (snapshot, changed) ∧
      changed.snapshot = some snapshot ∧ changed.Lists ruleSet.rules := by
  obtain ⟨_, valid, _⟩ := RuleSet.accept_eq_ok_iff.1 accepted
  have wellFormed : ruleSet.WellFormed := RuleSet.validate_eq_ok_iff.1 valid
  obtain ⟨snapshot, success⟩ := Snapshot.exists_ofRuleSet wellFormed savedAt
  have saved : store.save ruleSet savedAt = .ok (snapshot, ⟨some snapshot⟩) :=
    Store.save_eq_ok_iff.2 ⟨success, rfl⟩
  exact ⟨snapshot, ⟨some snapshot⟩, saved, rfl, Store.lists_of_ofRuleSet success⟩

/-- A written rule that flags records, with the parts in which the rules of the next payload differ. -/
def flaggingPayload (id : String) (priority : Nat) (active : Bool) (condition : Fields) : Json :=
  .object [("id", .string id), ("name", .string id), ("type", .string "validation"),
    ("priority", .ofNat priority), ("active", .bool active), ("conditions", .array [.object condition]),
    ("actions", .array [.object [("type", .string "flag")]])]

/-- The rule that is read from it. -/
def flaggingRule (id : String) (priority : Int32) (active : Bool) (condition : Condition) : Rule :=
  ⟨id, id, none, .validation, priority, active, [condition], [⟨.flag, []⟩], ⟨0, 0⟩, ⟨0, 0⟩⟩

/-- Two tied rules around an inactive rule of smaller priority. -/
def queuePayload : Json :=
  .object [("version", .string "1"), ("metadata", .object [("name", .string "queue")]),
    ("rules", .array
      [flaggingPayload "c" 5 true [("expression", .string "amount > 3")],
        flaggingPayload "a" 2 false [("field", .string "amount"), ("operator", .string "exists")],
        flaggingPayload "b" 5 true [("expression", .string "approved")]])]

/-- The rule set that is read from it. -/
def queueSet : RuleSet :=
  ⟨"1", ⟨"queue", none, none, none⟩,
    [flaggingRule "c" 5 true ⟨.expression "amount > 3", .and⟩,
      flaggingRule "a" 2 false ⟨.field "amount" .exists .null, .and⟩,
      flaggingRule "b" 5 true ⟨.expression "approved", .and⟩]⟩

theorem queue_saves :
    RuleSet.accept queuePayload ⟨0, 0⟩ = .ok queueSet ∧
      ∃ snapshot changed, Store.empty.save queueSet ⟨1, 0⟩ = .ok (snapshot, changed) ∧
        changed.snapshot = some snapshot ∧ changed.Lists queueSet.rules := by
  have read : RuleSet.decode ⟨0, 0⟩ queuePayload = .ok queueSet := rfl
  have valid : queueSet.validate = .ok () := Outcome.eq_ok_of_toOption (by decide +kernel)
  have faultless : Shape.ruleSetFaults queuePayload = [] := by decide +kernel
  have accepted := RuleSet.accept_eq_ok_iff.2 ⟨read, valid, faultless⟩
  exact ⟨accepted, accepted_rule_set_saves accepted Store.empty ⟨1, 0⟩⟩

example : (Rule.byPriority queueSet.rules).map Rule.id = ["a", "c", "b"] := by cbv

end Verdict
