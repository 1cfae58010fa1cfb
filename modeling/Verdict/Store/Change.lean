import Verdict.Store.Basic
/-!
The life of a store: changes of the rules in force, one after the other, each at its time. A change that
fails leaves the store as it was, so every sequence of changes leads to a store.
-/

namespace Verdict

open Time (Instant)

inductive Store.Change where
  | save (ruleSet : RuleSet)
  | update (id : String) (patch : RulePatch)
  | delete (id : String)
deriving Repr

namespace Store

/-- The store after what an operation gives; after an error it is the old one. -/
def orElse (store : Store) : Except RuleError (α × Store) → Store
  | .ok (_, changed) => changed
  | .error _ => store

def after (store : Store) (change : Change) (now : Instant) : Store :=
  match change with
  | .save ruleSet => store.orElse (store.save ruleSet now)
  | .update id patch => store.orElse (store.update id patch now)
  | .delete id => store.orElse (store.delete id now)

def afterAll : (store : Store) → (changes : List (Change × Instant)) → Store
  | store, [] => store
  | store, (change, now) :: rest => (store.after change now).afterAll rest

def Reachable (store : Store) : Prop :=
  ∃ changes : List (Change × Instant), Store.empty.afterAll changes = store

theorem afterAll_append (store : Store) (first second : List (Change × Instant)) :
    store.afterAll (first ++ second) = (store.afterAll first).afterAll second := by
  induction first generalizing store with
  | nil => rfl
  | cons change rest ih =>
    obtain ⟨change, now⟩ := change
    exact ih (store.after change now)

theorem Reachable.after {store : Store} (reachable : store.Reachable) (change : Change) (now : Instant) :
    (store.after change now).Reachable := by
  obtain ⟨changes, rfl⟩ := reachable
  exact ⟨changes ++ [(change, now)], afterAll_append _ _ _⟩

end Store

def Snapshot.toRuleSet (snapshot : Snapshot) : RuleSet :=
  ⟨snapshot.version, snapshot.metadata, snapshot.plainRules⟩

end Verdict
