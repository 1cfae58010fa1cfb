import Verdict.Rule.Encoding
import Verdict.Rule.Intake
/-!
The rules in force. A snapshot holds rules with their expressions already parsed, in ascending priority;
rules of one priority stand in the order in which they were declared. Changing a snapshot gives a new one
or an error, and then the old one stays in force.
-/

namespace Verdict

open Expression (parse)
open Time (Instant)

/-- A rule with the parsed expression of each of its conditions that has one. -/
structure CompiledRule where
  rule : Rule
  programs : List (Option Expr)
deriving Repr

/-- The parsed expressions of conditions, or the error of the first that does not parse. -/
def Condition.compileAll : List Condition → Except RuleError (List (Option Expr))
  | [] => .ok []
  | condition :: rest =>
    match condition.source? with
    | none => (compileAll rest).map (none :: ·)
    | some source =>
      match parse source with
      | .error error => .error (.badExpression error none)
      | .ok program => (compileAll rest).map (some program :: ·)

namespace CompiledRule

def compile (rule : Rule) : Except RuleError CompiledRule :=
  (Condition.compileAll rule.conditions).map (⟨rule, ·⟩)

def compileAll : List Rule → Except RuleError (List CompiledRule)
  | [] => .ok []
  | rule :: rest => do
    let compiled ← compile rule
    let others ← compileAll rest
    .ok (compiled :: others)

/-- Rules by ascending priority; of one priority, in the order in which they stand. -/
def byPriority (rules : List CompiledRule) : List CompiledRule :=
  rules.mergeSort (fun left right => decide (left.rule.priority ≤ right.rule.priority))

end CompiledRule

structure Snapshot where
  version : String
  metadata : Metadata
  lastUpdated : Instant
  rules : List CompiledRule
deriving Repr

namespace Snapshot

def ofRuleSet (ruleSet : RuleSet) (now : Instant) : Except RuleError Snapshot := do
  ruleSet.validate
  let rules ← CompiledRule.compileAll ruleSet.rules
  .ok ⟨ruleSet.version, ruleSet.metadata, now, CompiledRule.byPriority rules⟩

def activeRules (snapshot : Snapshot) : List CompiledRule :=
  snapshot.rules.filter (fun compiled => compiled.rule.active)

def plainRules (snapshot : Snapshot) : List Rule :=
  snapshot.rules.map CompiledRule.rule

def find? (snapshot : Snapshot) (id : String) : Option Rule :=
  snapshot.plainRules.find? (fun rule => rule.id == id)

/-- The kinds of rule in the order in which they first occur. -/
def kinds (snapshot : Snapshot) : List RuleKind :=
  (snapshot.plainRules.map Rule.kind).eraseDups

/-- The rules with the first rule of a name replaced. -/
def replaceFirst (id : String) (replacement : CompiledRule) : List CompiledRule → List CompiledRule
  | [] => []
  | compiled :: rest =>
    if compiled.rule.id == id then replacement :: rest
    else compiled :: replaceFirst id replacement rest

/-- Changes the rule of a name by a patch. The changed rule has to keep the constraints, and takes the
place that its priority gives it. -/
def update (snapshot : Snapshot) (id : String) (patch : RulePatch) (now : Instant) :
    Except RuleError (Rule × Snapshot) :=
  match snapshot.find? id with
  | none => .error (.ruleNotFound id)
  | some rule => do
    let changed := rule.patched patch now
    changed.validate
    let compiled ← CompiledRule.compile changed
    .ok (changed, { snapshot with
      lastUpdated := now
      rules := CompiledRule.byPriority (replaceFirst id compiled snapshot.rules) })

def delete (snapshot : Snapshot) (id : String) (now : Instant) : Except RuleError (Rule × Snapshot) :=
  match snapshot.find? id with
  | none => .error (.ruleNotFound id)
  | some rule =>
    .ok (rule, { snapshot with
      lastUpdated := now
      rules := snapshot.rules.eraseP (fun compiled => compiled.rule.id == id) })

end Snapshot

end Verdict
