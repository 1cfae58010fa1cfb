import Verdict.Proofs.Evaluation.Trial
/-!
What an evaluation may change in a record. Every action has a few top-level keys that it may write, and a
calculation writes below the first segment of its target only. So a whole evaluation takes no key away and
leaves every key alone that no action of a passed rule may write.
-/

namespace Verdict

open Time (Instant)

theorem Text.exists_splitAtMark (mark : Char) (text : List Char) :
    ∃ rest, splitAtMark mark text = text.takeWhile (· != mark) :: rest := by
  induction text with
  | nil => exact ⟨[], rfl⟩
  | cons character text ih =>
    obtain ⟨rest, split⟩ := ih
    by_cases found : character = mark
    · exact ⟨splitAtMark mark text, by simp [splitAtMark, found]⟩
    · exact ⟨rest, by simp [splitAtMark, found, split]⟩

namespace Record

/-- The key at the top of a record that a path goes through: the path up to its first point. -/
def topKey (path : String) : String := String.ofList (path.toList.takeWhile (· != '.'))

/-- However deep it writes, a successful write puts one value under one key of the record. -/
theorem exists_insert_of_writeAt {record written : Record} {first : String} {rest : List String}
    {value : Json} (success : record.writeAt (first :: rest) value = some written) :
    ∃ part, written = record.insert first part := by
  cases rest with
  | nil =>
    cases success
    exact ⟨value, rfl⟩
  | cons second rest =>
    rw [writeAt] at success
    split at success
    next =>
      obtain ⟨fields, _, rfl⟩ := Option.map_eq_some_iff.1 success
      exact ⟨.object fields, rfl⟩
    next =>
      obtain ⟨fields, _, rfl⟩ := Option.map_eq_some_iff.1 success
      exact ⟨.object fields, rfl⟩
    next => cases success

theorem exists_insert_of_write? {record written : Record} {path : String} {value : Json}
    (success : record.write? path value = some written) :
    ∃ part, written = record.insert (topKey path) part := by
  obtain ⟨rest, split⟩ := Text.exists_splitAtMark '.' path.toList
  have segments : Text.segments path = topKey path :: rest.map String.ofList := by
    rw [Text.segments, split]
    rfl
  rw [write?, segments] at success
  by_cases gap : (topKey path :: rest.map String.ofList).any (·.isEmpty) = true
  · simp only [gap, if_true] at success
    cases success
  · simp only [gap, Bool.false_eq_true, if_false] at success
    exact exists_insert_of_writeAt success

/-- A record that has every key of another one, and differs from it under some keys at most. -/
structure ChangedWithin (keys : List String) (before after : Record) : Prop where
  kept : ∀ key, before.hasKey key = true → after.hasKey key = true
  untouched : ∀ key, key ∉ keys → after.get? key = before.get? key

namespace ChangedWithin

theorem refl (keys : List String) (record : Record) : ChangedWithin keys record record :=
  ⟨fun _ present => present, fun _ _ => rfl⟩

theorem trans {first second : List String} {start middle final : Record}
    (earlier : ChangedWithin first start middle) (later : ChangedWithin second middle final) :
    ChangedWithin (first ++ second) start final := by
  constructor
  case kept => exact fun key present => later.kept key (earlier.kept key present)
  case untouched =>
    intro key outside
    rw [List.mem_append, not_or] at outside
    exact (later.untouched key outside.2).trans (earlier.untouched key outside.1)

theorem insert (record : Record) (key : String) (value : Json) :
    ChangedWithin [key] record (Fields.insert record key value) := by
  constructor
  case kept =>
    intro other present
    by_cases same : key = other
    · rw [same, Fields.hasKey, Fields.get?_insert_self]
      rfl
    · rw [Fields.hasKey, Fields.get?_insert_of_ne record value same]
      exact present
  case untouched =>
    intro other outside
    have different : key ≠ other := fun same => outside (same ▸ List.mem_singleton_self key)
    exact Fields.get?_insert_of_ne record value different

end ChangedWithin

end Record

open Record (ChangedWithin)

namespace Action

/-- The keys at the top of a record that an action may write. -/
def writtenKeys (action : Action) : List String :=
  match action.kind with
  | .approve => ["status", "approvalType", "approvedAt"]
  | .reject => ["status", "rejectedAt"]
  | .flag => ["urgency", "urgencySetAt"]
  | .calculate => ((action.text? "target").map Record.topKey).toList ++ ["calculatedAt"]
  | .notify => []
  | .modify => ["status", "approvalRequired", "approvalLevel"]
  | .unknown => []

theorem changedWithin_calculate? {action : Action} {record changed : Record} {now : Instant}
    (success : action.calculate? record now = some changed) :
    ChangedWithin (((action.text? "target").map Record.topKey).toList ++ ["calculatedAt"]) record changed := by
  rw [calculate?] at success
  split at success
  next => cases success
  next target named =>
    rw [named]
    by_cases empty : target.isEmpty = true
    · rw [if_pos empty] at success
      cases success
    · rw [if_neg empty] at success
      obtain ⟨value, _, wrote⟩ := Option.bind_eq_some_iff.1 success
      obtain ⟨written, done, rfl⟩ := Option.map_eq_some_iff.1 wrote
      obtain ⟨part, rfl⟩ := Record.exists_insert_of_write? done
      exact (ChangedWithin.insert record _ part).trans (.insert _ "calculatedAt" _)

theorem changedWithin_perform? {action : Action} {record changed : Record} {now : Instant}
    (success : action.perform? record now = some changed) :
    ChangedWithin action.writtenKeys record changed := by
  obtain ⟨kind, parameters⟩ := action
  cases kind with
  | approve =>
    cases success
    exact ((ChangedWithin.insert record "status" _).trans (.insert _ "approvalType" _)).trans
      (.insert _ "approvedAt" _)
  | reject =>
    cases success
    exact (ChangedWithin.insert record "status" _).trans (.insert _ "rejectedAt" _)
  | flag =>
    cases success
    exact (ChangedWithin.insert record "urgency" _).trans (.insert _ "urgencySetAt" _)
  | calculate => exact changedWithin_calculate? success
  | notify =>
    cases success
    exact ChangedWithin.refl [] record
  | modify =>
    cases success
    exact ((ChangedWithin.insert record "status" _).trans (.insert _ "approvalRequired" _)).trans
      (.insert _ "approvalLevel" _)
  | unknown => cases success

theorem changedWithin_applied (action : Action) (record : Record) (now : Instant) :
    ChangedWithin action.writtenKeys record (action.applied now record) := by
  rw [applied]
  cases outcome : action.perform? record now with
  | none => exact ChangedWithin.refl _ record
  | some changed => exact changedWithin_perform? outcome

theorem changedWithin_foldl_applied (actions : List Action) (record : Record) (now : Instant) :
    ChangedWithin (actions.flatMap writtenKeys) record (actions.foldl (applied now) record) := by
  induction actions generalizing record with
  | nil => exact ChangedWithin.refl [] record
  | cons action rest ih =>
    rw [List.flatMap_cons, List.foldl_cons]
    exact (action.changedWithin_applied record now).trans (ih _)

theorem applied_of_notify {action : Action} (notifies : action.kind = .notify) (record : Record)
    (now : Instant) : action.applied now record = record := by
  rw [applied, perform?, notifies]
  rfl

theorem foldl_applied_of_notify {actions : List Action} (notify : ∀ action ∈ actions, action.kind = .notify)
    (record : Record) (now : Instant) : actions.foldl (applied now) record = record := by
  induction actions with
  | nil => rfl
  | cons action rest ih =>
    obtain ⟨first, others⟩ := List.forall_mem_cons.1 notify
    rw [List.foldl_cons, applied_of_notify first, ih others]

end Action

namespace RuleResult

theorem mem_passedActions {results : List RuleResult} {action : Action} :
    action ∈ passedActions results ↔
      ∃ result ∈ results, result.passed = true ∧ action ∈ result.rule.actions := by
  simp only [passedActions, List.mem_flatMap, List.mem_filter, and_assoc]

end RuleResult

/-- What an evaluation of a record left as it was: every key is still there, a key with another value is one
that an action of a passed rule may write, and nothing changes where passed rules only notify or no rule
passes. -/
structure Evaluation.Frames (evaluation : Evaluation) (record : Record) : Prop where
  kept : ∀ key, record.hasKey key = true → evaluation.summary.processed.hasKey key = true
  written : ∀ key, evaluation.summary.processed.get? key ≠ record.get? key →
    ∃ result ∈ evaluation.summary.results, result.passed = true ∧
      ∃ action ∈ result.rule.actions, key ∈ action.writtenKeys
  notified : (∀ result ∈ evaluation.summary.results, result.passed = true →
    ∀ action ∈ result.rule.actions, action.kind = .notify) → evaluation.summary.processed = record
  failed : (∀ result ∈ evaluation.summary.results, result.passed = false) →
    evaluation.summary.processed = record

/-- Whatever an evaluation changes in a record has been written by an action of a passed rule, under one of
the few keys of this action or below the first segment of the target of a calculation. -/
theorem evaluation_frames_record {rules : List CompiledRule} {record : Record} {options : Options}
    {now : Instant} {evaluation : Evaluation}
    (success : evaluate rules record options now = .ok evaluation) : evaluation.Frames record := by
  obtain ⟨_, rfl⟩ := evaluate_eq_ok_iff.1 success
  have processed := CompiledRule.record_attemptAll options now rules record
  have changed := Action.changedWithin_foldl_applied
    (RuleResult.passedActions (CompiledRule.attemptAll options now rules record).results) record now
  rw [← processed] at changed
  have notified : (∀ result ∈ (CompiledRule.attemptAll options now rules record).results,
      result.passed = true → ∀ action ∈ result.rule.actions, action.kind = .notify) →
        (CompiledRule.attemptAll options now rules record).record = record := by
    intro notify
    rw [processed]
    apply Action.foldl_applied_of_notify
    intro action member
    obtain ⟨result, listed, passed, performed⟩ := RuleResult.mem_passedActions.1 member
    exact notify result listed passed action performed
  constructor
  case kept => exact changed.kept
  case written =>
    intro key differs
    have inside : key ∈ (RuleResult.passedActions
        (CompiledRule.attemptAll options now rules record).results).flatMap Action.writtenKeys :=
      Decidable.byContradiction (fun outside => differs (changed.untouched key outside))
    obtain ⟨action, member, writes⟩ := List.mem_flatMap.1 inside
    obtain ⟨result, listed, passed, performed⟩ := RuleResult.mem_passedActions.1 member
    exact ⟨result, listed, passed, action, performed, writes⟩
  case notified => exact notified
  case failed =>
    intro failed
    refine notified (fun result listed passed => ?_)
    rw [failed result listed] at passed
    cases passed

/-- The first rule passes, calculates a nested total and notifies; the second one fails and approves nothing. -/
def totalRules : List CompiledRule :=
  [⟨⟨"t", "t", none, .calculation, 1, true, [⟨.field "amount" .exists .null, .and⟩],
      [⟨.calculate, [("fields", .array [.string "amount"]), ("target", .string "totals.gross")]⟩,
        ⟨.notify, []⟩], ⟨0, 0⟩, ⟨0, 0⟩⟩, [none]⟩,
    ⟨⟨"f", "f", none, .approval, 2, true, [⟨.field "vendor" .exists .null, .and⟩], [⟨.approve, []⟩],
      ⟨0, 0⟩, ⟨0, 0⟩⟩, [none]⟩]

/-- The record on which they are tried. -/
def amountRecord : Record := [("amount", .ofNat 5)]

theorem nested_total_frames :
    ∃ evaluation, evaluate totalRules amountRecord ⟨false, false, true⟩ ⟨0, 0⟩ = .ok evaluation ∧
      evaluation.summary.processed.map Prod.fst = ["amount", "calculatedAt", "totals"] ∧
      evaluation.Frames amountRecord := by
  obtain ⟨evaluation, success, _, processed⟩ :=
    exists_evaluate (List.cons_ne_nil _ _ : totalRules ≠ []) amountRecord ⟨false, false, true⟩ ⟨0, 0⟩
  have keys : (CompiledRule.attemptAll ⟨false, false, true⟩ ⟨0, 0⟩ totalRules amountRecord).record.map
      Prod.fst = ["amount", "calculatedAt", "totals"] := by decide +kernel
  exact ⟨evaluation, success, processed ▸ keys, evaluation_frames_record success⟩

end Verdict
