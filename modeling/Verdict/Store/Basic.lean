import Verdict.Store.Snapshot
/-!
A store of rules: nothing until rules are saved, and then the snapshot in force. An operation that fails
leaves the store as it was.
-/

namespace Verdict

open Time (Instant)

structure Store where
  snapshot : Option Snapshot
deriving Repr

namespace Store

def empty : Store := ⟨none⟩

def save (_store : Store) (ruleSet : RuleSet) (now : Instant) : Except RuleError (Snapshot × Store) :=
  (Snapshot.ofRuleSet ruleSet now).map (fun snapshot => (snapshot, ⟨some snapshot⟩))

def update (store : Store) (id : String) (patch : RulePatch) (now : Instant) :
    Except RuleError (Rule × Store) :=
  match store.snapshot with
  | none => .error (.ruleNotFound id)
  | some snapshot => (snapshot.update id patch now).map (fun (rule, changed) => (rule, ⟨some changed⟩))

def delete (store : Store) (id : String) (now : Instant) : Except RuleError (Rule × Store) :=
  match store.snapshot with
  | none => .error (.ruleNotFound id)
  | some snapshot => (snapshot.delete id now).map (fun (rule, changed) => (rule, ⟨some changed⟩))

def rules (store : Store) : List Rule :=
  store.snapshot.elim [] Snapshot.plainRules

/-- The rules that are evaluated, with their expressions. -/
def activeRules (store : Store) : List CompiledRule :=
  store.snapshot.elim [] Snapshot.activeRules

def get (store : Store) (id : String) : Except RuleError Rule :=
  match store.snapshot.bind (fun snapshot => snapshot.find? id) with
  | some rule => .ok rule
  | none => .error (.ruleNotFound id)

structure Statistics where
  total : Nat
  active : Nat
  kinds : List (RuleKind × Nat)
  lastUpdated : Option Instant
deriving Repr

/-- The statistics of a store; kinds without rules are left out. -/
def statistics (store : Store) : Statistics where
  total := store.rules.length
  active := store.activeRules.length
  kinds :=
    (RuleKind.all.map (fun kind => (kind, store.rules.countP (fun rule => rule.kind == kind)))).filter
      (fun entry => entry.2 != 0)
  lastUpdated := store.snapshot.map Snapshot.lastUpdated

def Statistics.toJson (statistics : Statistics) : Json :=
  .object
    [("activeRules", .ofNat statistics.active),
      ("inactiveRules", .ofNat (statistics.total - statistics.active)),
      ("lastUpdated", .ofOption (fun moment => .string moment.text) statistics.lastUpdated),
      ("rulesByType",
        .object (Fields.ofEntries (statistics.kinds.map (fun entry => (entry.1.name, .ofNat entry.2))))),
      ("totalRules", .ofNat statistics.total)]

def Statistics.content (statistics : Statistics) : Content :=
  .fields
    [(some "totalRules", .count statistics.total), (some "activeRules", .count statistics.active),
      (some "inactiveRules", .count (statistics.total - statistics.active)),
      (some "rulesByType", .map (statistics.kinds.map (fun entry => (.text entry.1.name, .count entry.2)))),
      (some "lastUpdated", .value (.ofOption (fun moment => .string moment.text) statistics.lastUpdated))]

end Store

end Verdict
