import Verdict.Evaluation.Summary
/-!
The evaluation of several records. Every record is evaluated by itself and at its own time, whatever the
others come to; the outcome keeps the order of the records.
-/

namespace Verdict

open Time (Instant)

structure BatchEntry where
  index : Nat
  recordName : String
  summary : Summary
deriving Repr

def BatchEntry.toJson (entry : BatchEntry) : Json :=
  .object
    ((entry.summary.fields.insert "recordId" (.string entry.recordName)).insert "recordIndex"
      (.ofNat entry.index))

/-- An entry hands on the fields of its summary in place of the summary. -/
def BatchEntry.content (entry : BatchEntry) : Content :=
  .fields
    [(some "recordIndex", .count entry.index), (some "recordId", .text entry.recordName),
      (none, entry.summary.content)]

structure BatchOutcome where
  entries : List BatchEntry
  finishedAt : Instant
deriving Repr

namespace BatchOutcome

def totalRecords (outcome : BatchOutcome) : Nat := outcome.entries.length

def passedRecords (outcome : BatchOutcome) : Nat :=
  outcome.entries.countP (fun entry => entry.summary.status == .passed)

def failedRecords (outcome : BatchOutcome) : Nat := outcome.totalRecords - outcome.passedRecords

def status (outcome : BatchOutcome) : Status :=
  .of (outcome.passedRecords == outcome.totalRecords)

def toJson (outcome : BatchOutcome) : Json :=
  .object
    [("batchSummary",
        .object
          [("failedRecords", .ofNat outcome.failedRecords), ("overallStatus", .string outcome.status.name),
            ("passedRecords", .ofNat outcome.passedRecords),
            ("processingTimestamp", .string outcome.finishedAt.text),
            ("totalRecords", .ofNat outcome.totalRecords)]),
      ("results", .array (outcome.entries.map BatchEntry.toJson))]

def content (outcome : BatchOutcome) : Content :=
  .fields
    [(some "batchSummary",
        .fields
          [(some "totalRecords", .count outcome.totalRecords), (some "passedRecords", .count outcome.passedRecords),
            (some "failedRecords", .count outcome.failedRecords), (some "overallStatus", .text outcome.status.name),
            (some "processingTimestamp", .text outcome.finishedAt.text)]),
      (some "results", .sequence (outcome.entries.map BatchEntry.content))]

end BatchOutcome

/-- The name of a record in a batch: its own, or one made from its place. -/
def Record.nameAt (record : Record) (index : Nat) : String :=
  record.name?.getD ("record_" ++ toString index)

/-- Evaluates the records from a place in their list on; `clock` tells the time of each. -/
def evaluateFrom (rules : List CompiledRule) (options : Options) (clock : Nat → Instant) :
    (index : Nat) → (records : List Record) → Except RuleError (List BatchEntry)
  | _, [] => .ok []
  | index, record :: rest => do
    let evaluation ← evaluate rules record options (clock index)
    let entries ← evaluateFrom rules options clock (index + 1) rest
    .ok (⟨index, record.nameAt index, evaluation.summary⟩ :: entries)

def evaluateBatch (rules : List CompiledRule) (records : List Record) (options : Options)
    (clock : Nat → Instant) (finishedAt : Instant) : Except RuleError BatchOutcome :=
  if rules.isEmpty then .error .noActiveRules
  else (evaluateFrom rules options clock 0 records).map (fun entries => ⟨entries, finishedAt⟩)

end Verdict
