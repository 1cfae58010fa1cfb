import Verdict.Evaluation.Schedule
import Verdict.Proofs.Evaluation.Trial
import Verdict.Proofs.Record.Naming
/-!
What a batch comes to. Its records do not see each other: whatever order they are taken up in, each has the
summary that it has alone, at its own place and under its own name, and the batch fails with any of them.
-/

namespace Verdict

open Time (Instant)

/-- What a record comes to at a place of a batch. -/
def BatchEntry.ofRecord (rules : List CompiledRule) (options : Options) (clock : Nat → Instant) (place : Nat)
    (record : Record) : BatchEntry :=
  ⟨place, record.nameAt place,
    ((CompiledRule.attemptAll options (clock place) rules record).evaluation (clock place)).summary⟩

section Order

variable {rules : List CompiledRule} (records : List Record) (options : Options) (clock : Nat → Instant)

/-- With an active rule no record fails to be evaluated, so every record has its entry. -/
theorem evaluateFrom_eq_ok (someRule : rules ≠ []) (index : Nat) :
    evaluateFrom rules options clock index records =
      .ok (records.mapIdx (fun place => BatchEntry.ofRecord rules options clock (index + place))) := by
  induction records generalizing index with
  | nil => rfl
  | cons record rest ih =>
    have evaluated := evaluate_eq_ok_iff.2
      ⟨someRule, (rfl : _ = (CompiledRule.attemptAll options (clock index) rules record).evaluation _)⟩
    rw [evaluateFrom, evaluated, ih, List.mapIdx_cons]
    simp only [Nat.add_right_comm index]
    rfl

theorem evaluateInOrder_eq_ok (someRule : rules ≠ []) (order : List Nat)
    (entries : List (Option BatchEntry)) (room : entries.length = records.length) :
    ∃ filled, evaluateInOrder rules records options clock order entries = .ok filled ∧
      ∀ place, filled[place]? =
        if place ∈ order then
          records[place]?.map (fun record => some (BatchEntry.ofRecord rules options clock place record))
        else entries[place]? := by
  induction order generalizing entries with
  | nil => exact ⟨entries, rfl, fun place => by simp⟩
  | cons first rest ih =>
    cases found : records[first]? with
    | none =>
      obtain ⟨filled, success, told⟩ := ih entries room
      refine ⟨filled, by rw [evaluateInOrder, found]; exact success, fun place => ?_⟩
      rw [told]
      by_cases same : place = first
      · subst same
        have outside : entries[place]? = none := by
          rw [List.getElem?_eq_none_iff, room]
          exact List.getElem?_eq_none_iff.1 found
        simp [found, outside]
      · simp [same]
    | some record =>
      obtain ⟨filled, success, told⟩ :=
        ih (entries.set first (some (BatchEntry.ofRecord rules options clock first record)))
          (List.length_set.trans room)
      have evaluated := evaluate_eq_ok_iff.2
        ⟨someRule, (rfl : _ = (CompiledRule.attemptAll options (clock first) rules record).evaluation _)⟩
      refine ⟨filled, ?_, fun place => ?_⟩
      · simp only [evaluateInOrder, found, evaluated]
        exact success
      rw [told]
      by_cases same : place = first
      · subst same
        have inside : place < entries.length := room ▸ (List.getElem?_eq_some_iff.1 found).1
        simp [found, inside]
      · simp [same, List.getElem?_set_ne (Ne.symm same)]

/-- The order in which the records are taken up makes no difference. -/
theorem evaluateBatchInOrder_eq {order : List Nat} (each : order.Perm (List.range records.length))
    (finishedAt : Instant) :
    evaluateBatchInOrder rules records options clock finishedAt order =
      evaluateBatch rules records options clock finishedAt := by
  cases rules with
  | nil => rfl
  | cons compiled others =>
    have someRule : compiled :: others ≠ [] := List.cons_ne_nil _ _
    obtain ⟨filled, success, told⟩ := evaluateInOrder_eq_ok records options clock someRule order
      (List.replicate records.length none) List.length_replicate
    have full : filled =
        (records.mapIdx (BatchEntry.ofRecord (compiled :: others) options clock)).map some := by
      apply List.ext_getElem?
      intro place
      simp only [told, each.mem_iff, List.mem_range, List.getElem?_map, List.getElem?_mapIdx, Option.map_map]
      split
      next inside => rfl
      next outside =>
        rw [List.getElem?_eq_none_iff.2 (Nat.not_lt.1 outside), List.getElem?_eq_none_iff.2]
        · rfl
        · simpa using outside
    have entries : filled.filterMap id =
        records.mapIdx (BatchEntry.ofRecord (compiled :: others) options clock) := by
      rw [full, List.filterMap_map]
      exact List.filterMap_some
    have oneByOne := evaluateFrom_eq_ok records options clock someRule 0
    simp only [Nat.zero_add] at oneByOne
    simp only [evaluateBatchInOrder, evaluateBatch, success, oneByOne, Except.map, entries]

end Order

namespace BatchOutcome

variable (outcome : BatchOutcome)

theorem totalRecords_eq : outcome.totalRecords = outcome.passedRecords + outcome.failedRecords := by
  have bound : outcome.passedRecords ≤ outcome.totalRecords := List.countP_le_length
  rw [failedRecords]
  omega

theorem status_eq_passed_iff :
    outcome.status = .passed ↔ ∀ entry ∈ outcome.entries, entry.summary.status = .passed := by
  have all : outcome.passedRecords = outcome.totalRecords ↔
      ∀ entry ∈ outcome.entries, entry.summary.status = .passed := by
    simp only [passedRecords, totalRecords, List.countP_eq_length, beq_iff_eq]
  rw [← all, status, Status.of]
  split
  next same => simpa using same
  next differs => simpa using differs

theorem status_eq_failed_iff :
    outcome.status = .failed ↔ ∃ entry ∈ outcome.entries, entry.summary.status = .failed := by
  have failed (status : Status) : status = .failed ↔ ¬status = .passed := by
    cases status <;> decide
  rw [failed, status_eq_passed_iff]
  simp [failed]

end BatchOutcome

/-- What a batch of records comes to: every record has an entry at its place, under its own name and with the
summary of its evaluation alone; the counts cover all records, and the batch fails with any record. -/
structure BatchOutcome.Covers (outcome : BatchOutcome) (rules : List CompiledRule) (records : List Record)
    (options : Options) (clock : Nat → Instant) : Prop where
  entries : ∀ place record, records[place]? = some record →
    ∃ entry evaluation, outcome.entries[place]? = some entry ∧ entry.index = place ∧
      record.CalledAt place entry.recordName ∧
      evaluate rules record options (clock place) = .ok evaluation ∧ entry.summary = evaluation.summary
  every : outcome.entries.length = records.length
  total : outcome.totalRecords = records.length
  counts : outcome.totalRecords = outcome.passedRecords + outcome.failedRecords
  status : outcome.status = .failed ↔ ∃ entry ∈ outcome.entries, entry.summary.status = .failed

/-- With an active rule every batch is evaluated, whatever the options are and in whatever order its records are
taken up, and the records have no part in each other's outcome. -/
theorem records_evaluated_alone {snapshot : Snapshot} (someActive : snapshot.activeRules ≠ [])
    (records : List Record) (options : Options) (clock : Nat → Instant) (finishedAt : Instant) :
    ∃ outcome, evaluateBatch snapshot.activeRules records options clock finishedAt = .ok outcome ∧
      (∀ order : List Nat, order.Perm (List.range records.length) →
        evaluateBatchInOrder snapshot.activeRules records options clock finishedAt order = .ok outcome) ∧
      outcome.Covers snapshot.activeRules records options clock := by
  have entries := evaluateFrom_eq_ok records options clock someActive 0
  simp only [Nat.zero_add] at entries
  have success : evaluateBatch snapshot.activeRules records options clock finishedAt =
      .ok ⟨records.mapIdx (BatchEntry.ofRecord snapshot.activeRules options clock), finishedAt⟩ := by
    rw [evaluateBatch, if_neg (mt List.isEmpty_iff.1 someActive), entries]
    rfl
  have every : (records.mapIdx (BatchEntry.ofRecord snapshot.activeRules options clock)).length =
      records.length := List.length_mapIdx
  refine ⟨_, success, fun order each => ?_, ?_⟩
  · rw [evaluateBatchInOrder_eq records options clock each, success]
  · constructor
    case entries =>
      intro place record found
      refine ⟨BatchEntry.ofRecord snapshot.activeRules options clock place record, _, ?_, rfl,
        record.calledAt_nameAt place, evaluate_eq_ok_iff.2 ⟨someActive, rfl⟩, rfl⟩
      rw [List.getElem?_mapIdx, found]
      rfl
    case every => exact every
    case total => exact every
    case counts => exact BatchOutcome.totalRecords_eq _
    case status => exact BatchOutcome.status_eq_failed_iff _

/-- A rule that passes the records in which a department is named, and flags them. -/
def departmentSnapshot : Snapshot :=
  ⟨"1", ⟨"departments", none, none, none⟩, ⟨0, 0⟩,
    [⟨⟨"d", "d", none, .validation, 5, true, [⟨.field "department" .exists .null, .and⟩], [⟨.flag, []⟩],
      ⟨0, 0⟩, ⟨0, 0⟩⟩, [none]⟩]⟩

/-- A record with a number for a name, and one with an empty name and no department. -/
def purchaseRecords : List Record :=
  [[("department", .string "IT"), ("id", .ofNat 77)], [("id", .string "")]]

theorem purchase_records_judged :
    departmentSnapshot.activeRules ≠ [] ∧
      ∃ outcome, evaluateBatch departmentSnapshot.activeRules purchaseRecords ⟨false, true, false⟩
          (fun place => ⟨place, 0⟩) ⟨2, 0⟩ = .ok outcome ∧
        (∀ order : List Nat, order.Perm (List.range purchaseRecords.length) →
          evaluateBatchInOrder departmentSnapshot.activeRules purchaseRecords ⟨false, true, false⟩
            (fun place => ⟨place, 0⟩) ⟨2, 0⟩ order = .ok outcome) ∧
        outcome.Covers departmentSnapshot.activeRules purchaseRecords ⟨false, true, false⟩
          (fun place => ⟨place, 0⟩) := by
  have someActive : departmentSnapshot.activeRules ≠ [] := List.cons_ne_nil _ _
  exact ⟨someActive, records_evaluated_alone someActive purchaseRecords ⟨false, true, false⟩ _ _⟩

example : ((evaluateBatchInOrder departmentSnapshot.activeRules purchaseRecords ⟨false, true, false⟩
    (fun place => ⟨place, 0⟩) ⟨2, 0⟩ [1, 0]).toOption.map
      (fun outcome => outcome.entries.map (fun entry => (entry.recordName, entry.summary.status)))) =
    some [("77", .passed), ("record_1", .failed)] := by decide +kernel

end Verdict
