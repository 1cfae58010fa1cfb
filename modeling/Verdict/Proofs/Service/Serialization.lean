import Verdict.Service.Basic
/-!
What a service hands to the writer can be written. Every key that is computed is a string, and every value whose fields
stand in its place has fields, so a written value is the one that its owner stands for.
-/

namespace Verdict

open Time (Instant)

namespace Fields

variable {first key : String} {old value : Json} {rest : Fields}

theorem insert_nil : insert [] key value = [(key, value)] := rfl

theorem insert_front (before : key < first) :
    insert ((first, old) :: rest) key value = (key, value) :: (first, old) :: rest := by
  have different : first ≠ key := by
    rintro rfl
    exact String.lt_irrefl _ before
  rw [insert, if_neg different, if_pos before]

theorem insert_behind (after : first < key) :
    insert ((first, old) :: rest) key value = (first, old) :: insert rest key value := by
  have different : first ≠ key := by
    rintro rfl
    exact String.lt_irrefl _ after
  rw [insert, if_neg different, if_neg (String.lt_asymm after)]

end Fields

namespace Content

@[simp] theorem write_value (json : Json) : (value json).write = .ok json := by
  rw [write]

@[simp] theorem write_text (written : String) : (text written).write = .ok (.string written) :=
  write_value _

@[simp] theorem write_count (number : Nat) : (count number).write = .ok (.ofNat number) :=
  write_value _

section Sequences

variable {α : Type} {content : α → Content} {json : α → Json}

theorem writeAll_map (writes : ∀ item, (content item).write = .ok (json item)) (items : List α) :
    writeAll (items.map content) = .ok (items.map json) := by
  induction items with
  | nil => rw [List.map_nil, writeAll, List.map_nil]
  | cons item rest ih =>
    rw [List.map_cons, writeAll, writes, ih]
    rfl

theorem write_sequence (writes : ∀ item, (content item).write = .ok (json item)) (items : List α) :
    (sequence (items.map content)).write = .ok (.array (items.map json)) := by
  rw [write, writeAll_map writes]
  rfl

theorem write_map (name : α → String) (writes : ∀ item, (content item).write = .ok (json item)) (items : List α) :
    (map (items.map (fun item => (.text (name item), content item)))).write =
      .ok (.object (Fields.ofEntries (items.map (fun item => (name item, json item))))) := by
  have entries : writeEntries (items.map (fun item => (.text (name item), content item))) =
      .ok (items.map (fun item => (name item, json item))) := by
    induction items with
    | nil => rw [List.map_nil, writeEntries, List.map_nil]
    | cons item rest ih =>
      rw [List.map_cons, writeEntries, writes, ih]
      rfl
  rw [write, entries]
  rfl

end Sequences

@[simp] theorem writeParts_nil : writeParts [] = .ok [] := by
  rw [writeParts]

@[simp] theorem writeParts_cons (key : String) (content : Content) (rest : List (Option String × Content)) :
    writeParts ((some key, content) :: rest) =
      content.write.bind (fun written => (writeParts rest).map ((key, written) :: ·)) := by
  rw [writeParts]
  cases content.write with
  | error cause => rfl
  | ok written => cases writeParts rest <;> rfl

theorem writeParts_none (content : Content) (rest : List (Option String × Content)) :
    writeParts ((none, content) :: rest) =
      content.flatten.bind (fun inner => (writeParts rest).map (inner ++ ·)) := by
  rw [writeParts]
  cases content.flatten with
  | error cause => rfl
  | ok inner => cases writeParts rest <;> rfl

@[simp] theorem optional_none (key : String) : optional key none = [] := rfl

@[simp] theorem optional_some (key : String) (content : Content) : optional key (some content) = [(some key, content)] :=
  rfl

theorem write_fields (parts : List (Option String × Content)) :
    (fields parts).write = (writeParts parts).map (fun members => .object (Fields.ofEntries members)) := by
  rw [write]

end Content

-- The keys are literals, so a decision tells which of two comes first.
attribute [local simp] Content.write_fields Content.writeParts_none Fields.ofEntries Fields.insert_nil Fields.insert_front
  Fields.insert_behind Except.bind Except.map

section Rules

theorem Metadata.write_content (metadata : Metadata) : metadata.content.write = .ok metadata.toJson := by
  obtain ⟨name, description, createdBy, createdDate⟩ := metadata
  cases description <;> cases createdBy <;> cases createdDate <;>
    simp (disch := decide) [content, toJson, optionalField]

theorem Condition.write_content (condition : Condition) : condition.content.write = .ok condition.toJson := by
  obtain ⟨test, connective⟩ := condition
  cases test <;> simp (disch := decide) [content, toJson, Content.flatten]

theorem Action.write_content (action : Action) : action.content.write = .ok action.toJson := by
  simp (disch := decide) [content, toJson]

theorem Rule.write_content (rule : Rule) : rule.content.write = .ok rule.toJson := by
  have conditions := Content.write_sequence Condition.write_content rule.conditions
  have actions := Content.write_sequence Action.write_content rule.actions
  cases described : rule.description <;>
    simp (disch := decide) [content, toJson, conditions, actions, described, optionalField]

end Rules

section Evaluation

theorem ConditionResult.write_content (result : ConditionResult) : result.content.write = .ok result.toJson := by
  obtain ⟨subject, operator, expected, actual, passed, fault⟩ := result
  cases actual <;> cases fault <;> simp (disch := decide) [content, toJson, message]

theorem RuleResult.write_content (result : RuleResult) : result.content.write = .ok result.toJson := by
  have actions := Content.write_sequence Action.write_content result.actions
  cases kept : result.conditions with
  | none => simp (disch := decide) [content, toJson, actions, kept, optionalField]
  | some conditions =>
    have written := Content.write_sequence ConditionResult.write_content conditions
    simp (disch := decide) [content, toJson, actions, kept, written, optionalField]

namespace Summary

/-- The fields of a summary as they are handed to the writer, before they are put in order. -/
def members (summary : Summary) : Fields :=
  [("totalRules", .ofNat summary.totalRules), ("passedRules", .ofNat summary.passedRules),
    ("failedRules", .ofNat summary.failedRules), ("overallStatus", .string summary.status.name),
    ("results", .array (summary.results.map RuleResult.toJson)),
    ("recommendations", .array (summary.recommendations.map .string)),
    ("evaluationTimestamp", .string summary.timestamp.text), ("processedData", .object summary.processed)]

theorem flatten_content (summary : Summary) : summary.content.flatten = .ok summary.members := by
  have results := Content.write_sequence RuleResult.write_content summary.results
  have lines := Content.write_sequence Content.write_text summary.recommendations
  simp (disch := decide) [content, members, Content.flatten, results, lines]

theorem write_content (summary : Summary) : summary.content.write = .ok summary.toJson := by
  have members := summary.flatten_content
  rw [content, Content.flatten] at members
  rw [content, Content.write_fields, members]
  simp (disch := decide) [Summary.members, toJson, fields]

end Summary

theorem BatchEntry.write_content (entry : BatchEntry) : entry.content.write = .ok entry.toJson := by
  simp (disch := decide) [content, toJson, Summary.flatten_content, Summary.members, Summary.fields]

theorem BatchOutcome.write_content (outcome : BatchOutcome) : outcome.content.write = .ok outcome.toJson := by
  have entries := Content.write_sequence BatchEntry.write_content outcome.entries
  simp (disch := decide) [content, toJson, entries]

end Evaluation

section Answers

theorem LoadReport.write_content (report : LoadReport) : report.content.write = .ok report.toJson := by
  have kinds := Content.write_sequence (fun kind => Content.write_text (RuleKind.name kind)) report.kinds
  simp (disch := decide) [content, toJson, kindsContent, kindsJson, kinds]

theorem Snapshot.write_content (snapshot : Snapshot) : snapshot.content.write = .ok snapshot.overview := by
  have kinds := Content.write_sequence (fun kind => Content.write_text (RuleKind.name kind)) snapshot.kinds
  have rules := Content.write_sequence Rule.write_content snapshot.plainRules
  simp (disch := decide) [content, overview, LoadReport.kindsContent, LoadReport.kindsJson, kinds, rules,
    Metadata.write_content]

theorem Store.Statistics.write_content (statistics : Statistics) :
    statistics.content.write = .ok statistics.toJson := by
  have kinds := Content.write_map (fun entry : RuleKind × Nat => entry.1.name) (fun entry => Content.write_count entry.2)
    statistics.kinds
  simp (disch := decide) [content, toJson, kinds]

theorem HistoryEntry.write_content (entry : HistoryEntry) : entry.content.write = .ok entry.toJson := by
  simp (disch := decide) [content, toJson]

theorem History.Page.write_content (page : Page) : page.content.write = .ok page.toJson := by
  have entries := Content.write_sequence HistoryEntry.write_content page.entries
  simp (disch := decide) [content, toJson, entries]

theorem History.Statistics.write_content (statistics : Statistics) :
    statistics.content.write = .ok statistics.toJson := by
  simp (disch := decide) [content, toJson]

end Answers

namespace Service

variable (service : Service) {record : Record} {records : List Record} {options : Options} {clock : Nat → Instant}
  {now : Instant} {error : RuleError}

theorem validate_of_error (failed : evaluate service.rules.activeRules record options now = .error error) :
    service.validate record options now = (.error error, service) := by
  rw [validate, failed]

/-- A validation that was evaluated is noted with its summary, since the summary can be written. -/
theorem validate_of_ok {evaluation : Evaluation}
    (evaluated : evaluate service.rules.activeRules record options now = .ok evaluation) :
    service.validate record options now =
      (.ok evaluation.summary,
        (service.counted (.evaluations .single (evaluation.summary.status == .passed))).noted .single
          evaluation.summary.status evaluation.summary.toJson now) := by
  rw [validate, evaluated]
  simp only [Summary.write_content]

theorem validateBatch_of_error
    (failed : evaluateBatch service.rules.activeRules records options clock now = .error error) :
    service.validateBatch records options clock now = (.error error, service) := by
  rw [validateBatch, failed]

theorem validateBatch_of_ok {outcome : BatchOutcome}
    (evaluated : evaluateBatch service.rules.activeRules records options clock now = .ok outcome) :
    service.validateBatch records options clock now =
      (.ok outcome,
        ((service.counted (.evaluations .batch (outcome.status == .passed))).counted
          (.batches (outcome.status == .passed))).noted .batch outcome.status outcome.toJson now) := by
  rw [validateBatch, evaluated]
  simp only [BatchOutcome.write_content]

end Service

end Verdict
