import Verdict.Approval.Basic
import Verdict.Evaluation.Batch
import Verdict.Service.Counter
import Verdict.Store.Basic
/-!
The rule service: rules and approval rules in force, the history of validations, and counters. An
operation gives its answer and the service after it; an operation that fails changes counters at most.
-/

namespace Verdict

open Time (Instant)

structure Service where
  rules : Store
  approvalRules : Store
  history : History
  counters : Counters

/-- An operation gives an answer or an error, and the service after it. -/
abbrev Answered (α : Type) := Except RuleError α × Service

structure LoadReport where
  version : String
  rulesCount : Nat
  activeRules : Nat
  kinds : List RuleKind
deriving Repr

namespace LoadReport

def of (snapshot : Snapshot) : LoadReport :=
  ⟨snapshot.version, snapshot.rules.length, snapshot.activeRules.length, snapshot.kinds⟩

def kindsJson (kinds : List RuleKind) : Json :=
  .array (kinds.map (fun kind => .string kind.name))

def kindsContent (kinds : List RuleKind) : Content :=
  .sequence (kinds.map (fun kind => .text kind.name))

def toJson (report : LoadReport) : Json :=
  .object
    [("rulesCount", .ofNat report.rulesCount),
      ("summary",
        .object
          [("activeRules", .ofNat report.activeRules), ("ruleTypes", kindsJson report.kinds),
            ("rulesCount", .ofNat report.rulesCount), ("version", .string report.version)])]

def content (report : LoadReport) : Content :=
  .fields
    [(some "rulesCount", .count report.rulesCount),
      (some "summary",
        .fields
          [(some "version", .text report.version), (some "rulesCount", .count report.rulesCount),
            (some "activeRules", .count report.activeRules), (some "ruleTypes", kindsContent report.kinds)])]

end LoadReport

def Snapshot.overview (snapshot : Snapshot) : Json :=
  .object
    [("activeRules", .ofNat snapshot.activeRules.length),
      ("lastUpdated", .string snapshot.lastUpdated.text), ("metadata", snapshot.metadata.toJson),
      ("ruleTypes", LoadReport.kindsJson snapshot.kinds),
      ("rules", .array (snapshot.plainRules.map Rule.toJson)),
      ("rulesCount", .ofNat snapshot.rules.length), ("version", .string snapshot.version)]

def Snapshot.content (snapshot : Snapshot) : Content :=
  .fields
    [(some "version", .text snapshot.version), (some "lastUpdated", .text snapshot.lastUpdated.text),
      (some "metadata", snapshot.metadata.content), (some "rulesCount", .count snapshot.rules.length),
      (some "activeRules", .count snapshot.activeRules.length),
      (some "ruleTypes", LoadReport.kindsContent snapshot.kinds),
      (some "rules", .sequence (snapshot.plainRules.map Rule.content))]

namespace Service

def new (historyCapacity : Nat) (ids : Nat → String := Text.paddedHex 32) : Service :=
  ⟨.empty, .empty, .new historyCapacity ids, []⟩

def counted (service : Service) (counter : Counter) : Service :=
  { service with counters := service.counters.add counter 1 }

def loadRules (service : Service) (payload : Json) (now : Instant) : Answered LoadReport :=
  match RuleSet.accept payload now >>= (service.rules.save · now) with
  | .ok (snapshot, rules) =>
    (.ok (LoadReport.of snapshot), { service with rules := rules }.counted (.ruleSetsLoaded true))
  | .error error => (.error error, service.counted (.ruleSetsLoaded false))

def getRules (service : Service) : Except RuleError Snapshot :=
  service.rules.snapshot.elim (.error .rulesNotLoaded) .ok

def getRule (service : Service) (id : String) : Except RuleError Rule :=
  service.rules.get id

def changed (service : Service) : Except RuleError (Rule × Store) → Answered Rule
  | .ok (rule, rules) => (.ok rule, { service with rules := rules })
  | .error error => (.error error, service)

def updateRule (service : Service) (id : String) (payload : Json) (now : Instant) : Answered Rule :=
  service.changed (RulePatch.accept payload >>= (service.rules.update id · now))

def deleteRule (service : Service) (id : String) (now : Instant) : Answered Rule :=
  service.changed (service.rules.delete id now)

/-- Notes a validation in the history, and counts the entries that had to go for it. -/
def noted (service : Service) (mode : Mode) (status : Status) (payload : Json) (now : Instant) : Service :=
  { service with
    history := service.history.append (service.history.nextEntry mode status payload now)
    counters := service.counters.add .evictions service.history.overflow }

/-- Validates one record. The validation is counted before its summary is written for the history. -/
def validate (service : Service) (record : Record) (options : Options) (now : Instant) :
    Answered Summary :=
  match evaluate service.rules.activeRules record options now with
  | .error error => (.error error, service)
  | .ok evaluation =>
    let summary := evaluation.summary
    let counted := service.counted (.evaluations .single (summary.status == .passed))
    match summary.content.write with
    | .error cause => (.error (.json cause), counted)
    | .ok payload => (.ok summary, counted.noted .single summary.status payload now)

def validateBatch (service : Service) (records : List Record) (options : Options)
    (clock : Nat → Instant) (now : Instant) : Answered BatchOutcome :=
  match evaluateBatch service.rules.activeRules records options clock now with
  | .error error => (.error error, service)
  | .ok outcome =>
    let passed := outcome.status == .passed
    let counted := (service.counted (.evaluations .batch passed)).counted (.batches passed)
    match outcome.content.write with
    | .error cause => (.error (.json cause), counted)
    | .ok payload => (.ok outcome, counted.noted .batch outcome.status payload now)

def loadApprovalRules (service : Service) (payload : Json) (now : Instant) : Answered LoadReport :=
  match ApprovalRules.accept payload >>= (·.toRuleSet now) >>= (service.approvalRules.save · now) with
  | .ok (snapshot, rules) => (.ok (LoadReport.of snapshot), { service with approvalRules := rules })
  | .error error => (.error error, service)

def process (service : Service) (request : Record) (now : Instant) : Except RuleError Record :=
  (processPurchaseRequest service.approvalRules.activeRules request now).map (·.1)

end Service

end Verdict
