import Verdict.Evaluation.InPlace
import Verdict.Proofs.Evaluation.Fault
import Verdict.Proofs.Record.Naming
/-!
What becomes of the actions of a rule, one by one. An action takes effect or is skipped; a skipped action leaves
the record that it was given as it was, although nothing is ever taken back. The actions that count are those that
took effect, and every notification is handed on, with the name that the record has when its turn comes.
-/

namespace Verdict

open Time (Instant)

theorem Json.ordered_ofCalculated (value : Float) : (Json.ofCalculated value).Ordered := by
  by_cases finite : value.isFinite = true
  · obtain ⟨numeral, written⟩ := ofCalculated_of_isFinite finite
    exact written ▸ .number numeral
  · exact ofCalculated_of_not_isFinite (Bool.eq_false_iff.mpr finite) ▸ .null

namespace Action

variable {action : Action} {record : Record}

/-- Nothing has to be taken back: in place an action comes to the same as where a record is only replaced once
the action went through. -/
theorem execute_eq_perform? (ordered : Fields.Ordered record) (now : Instant) :
    action.execute record now = ((action.perform? record now).isSome, (action.perform? record now).getD record) := by
  rw [execute, perform?]
  cases action.kind with
  | calculate =>
    simp only [calculateInPlace, calculate?]
    cases action.text? "target" with
    | none => rfl
    | some target =>
      dsimp only
      by_cases empty : target.isEmpty = true
      · simp only [if_pos empty]
        rfl
      · simp only [if_neg empty]
        cases action.outcome? record with
        | none => rfl
        | some value =>
          simp only [Option.bind_some, Record.write?_eq_assign]
          cases done : (record.assign target (.ofCalculated (action.rounded value))).1 with
          | true => rfl
          | false =>
            rw [Record.assign_of_not_done ordered done]
            rfl
  | approve | reject | flag | notify | modify | unknown => rfl

theorem execute_of_skipped (ordered : Fields.Ordered record) (now : Instant) (skipped : action.Skipped record) :
    action.execute record now = (false, record) := by
  rw [execute_eq_perform? ordered, (perform?_eq_none_iff now).2 skipped]
  rfl

theorem execute_of_not_skipped (ordered : Fields.Ordered record) (now : Instant)
    (effective : ¬action.Skipped record) :
    ∃ changed, action.perform? record now = some changed ∧ action.execute record now = (true, changed) := by
  obtain ⟨changed, performed⟩ := Option.ne_none_iff_exists'.1 (mt (perform?_eq_none_iff now).1 effective)
  refine ⟨changed, performed, ?_⟩
  rw [execute_eq_perform? ordered, performed]
  rfl

theorem ordered_execute (ordered : Fields.Ordered record) (parameters : Fields.Ordered action.parameters)
    (now : Instant) : Fields.Ordered (action.execute record now).2 := by
  rw [execute]
  cases action.kind with
  | approve =>
    exact ((ordered.insert "status" (.string _)).insert "approvalType" (.string _)).insert "approvedAt" (.string _)
  | reject => exact (ordered.insert "status" (.string _)).insert "rejectedAt" (.string _)
  | flag => exact (ordered.insert "urgency" (.string _)).insert "urgencySetAt" (.string _)
  | modify =>
    refine ((ordered.insert "status" (.string _)).insert "approvalRequired" (.bool _)).insert "approvalLevel" ?_
    cases level : action.parameters.get? "approvalLevel" with
    | none => exact .null
    | some value => exact parameters.get? level
  | notify | unknown => exact ordered
  | calculate =>
    simp only [calculateInPlace]
    cases action.text? "target" with
    | none => exact ordered
    | some target =>
      dsimp only
      split
      · exact ordered
      · cases action.outcome? record with
        | none => exact ordered
        | some value =>
          have written : Fields.Ordered (record.assign target (.ofCalculated (action.rounded value))).2 :=
            Record.ordered_assign ordered (Json.ordered_ofCalculated (action.rounded value))
          dsimp only
          split
          · exact written.insert "calculatedAt" (.string _)
          · exact written

/-- The actions of a list, each with the record that it is given: the one that those before it leave. -/
def trail (now : Instant) : (actions : List Action) → (record : Record) → List (Action × Record)
  | [], _ => []
  | action :: rest, record => (action, record) :: trail now rest (action.execute record now).2

theorem map_fst_trail (now : Instant) (actions : List Action) (record : Record) :
    (trail now actions record).map Prod.fst = actions := by
  induction actions generalizing record with
  | nil => rfl
  | cons action rest ih => rw [trail, List.map_cons, ih]

theorem ordered_of_mem_trail {now : Instant} {actions : List Action} {record : Record}
    (ordered : Fields.Ordered record) (parameters : ∀ action ∈ actions, Fields.Ordered action.parameters)
    {stage : Action × Record} (mem : stage ∈ trail now actions record) : Fields.Ordered stage.2 := by
  induction actions generalizing record with
  | nil => cases mem
  | cons action rest ih =>
    obtain ⟨first, others⟩ := List.forall_mem_cons.1 parameters
    obtain rfl | later := List.mem_cons.1 mem
    · exact ordered
    · exact ih (ordered_execute ordered first now) others later

end Action

section Run

variable {rule : Rule} {now : Instant} {action : Action} {actions : List Action} {effect : Effect}

theorem Effect.next_of_skipped (ordered : Fields.Ordered effect.record) (skipped : action.Skipped effect.record) :
    Effect.next rule now effect action = effect := by
  have silent : action.notifications rule effect.record now = [] := by
    rw [Action.notifications]
    cases skipped with
    | unknown kind | calculation kind _ => rw [kind]
  rw [Effect.next, Action.execute_of_skipped ordered now skipped, silent, List.append_nil]
  rfl

theorem Effect.applied_next (ordered : Fields.Ordered effect.record) :
    (Effect.next rule now effect action).applied =
      effect.applied + if action.Skipped effect.record then 0 else 1 := by
  by_cases skipped : action.Skipped effect.record
  · rw [next_of_skipped ordered skipped, if_pos skipped]
    rfl
  · obtain ⟨changed, _, performed⟩ := Action.execute_of_not_skipped ordered now skipped
    rw [next, performed, if_neg skipped]
    rfl

/-- Carried out in place, actions come to what they come to one by one. -/
theorem Effect.foldl_next (ordered : Fields.Ordered effect.record)
    (parameters : ∀ action ∈ actions, Fields.Ordered action.parameters) :
    actions.foldl (Effect.next rule now) effect =
      ⟨(rule.perform now actions effect.record).record,
        effect.applied + (rule.perform now actions effect.record).applied,
        effect.notifications ++ (rule.perform now actions effect.record).notifications⟩ := by
  induction actions generalizing effect with
  | nil => simp [Rule.perform]
  | cons action rest ih =>
    obtain ⟨first, others⟩ := List.forall_mem_cons.1 parameters
    rw [List.foldl_cons, ih (Action.ordered_execute ordered first now) others, Rule.perform]
    by_cases skipped : action.Skipped effect.record
    · rw [next_of_skipped ordered skipped, (Action.perform?_eq_none_iff now).2 skipped]
    · obtain ⟨changed, performed, executed⟩ := Action.execute_of_not_skipped ordered now skipped
      simp only [next, executed, performed, if_true, Nat.add_assoc, List.append_assoc]
      rw [Nat.add_comm 1]

theorem Effect.applied_foldl_next (ordered : Fields.Ordered effect.record)
    (parameters : ∀ action ∈ actions, Fields.Ordered action.parameters) :
    (actions.foldl (Effect.next rule now) effect).applied =
      effect.applied +
        (Action.trail now actions effect.record).countP (fun stage => !decide (stage.1.Skipped stage.2)) := by
  induction actions generalizing effect with
  | nil => rfl
  | cons action rest ih =>
    obtain ⟨first, others⟩ := List.forall_mem_cons.1 parameters
    rw [List.foldl_cons, ih (Action.ordered_execute ordered first now) others, applied_next ordered, Action.trail,
      List.countP_cons]
    by_cases skipped : action.Skipped effect.record
    · simp [skipped, next]
    · simp only [skipped, next, if_false, decide_false, Bool.not_false, if_true]
      omega

theorem Effect.notifications_foldl_next :
    (actions.foldl (Effect.next rule now) effect).notifications =
      effect.notifications ++
        ((Action.trail now actions effect.record).filter (fun stage => stage.1.kind = .notify)).map
          (fun stage => ⟨rule.id, rule.name, Record.name? stage.2, stage.1.parameters, now⟩) := by
  induction actions generalizing effect with
  | nil => exact (List.append_nil _).symm
  | cons action rest ih =>
    rw [List.foldl_cons, ih, Action.trail, List.filter_cons]
    cases kind : action.kind <;> simp [next, Action.notifications, kind]

end Run

/-- What an action hands on in its turn, with the record that it is given: the rule that it stands in, what the record
is called, and its parameters. -/
structure Notification.Announces (rule : Rule) (now : Instant) (stage : Action × Record)
    (notification : Notification) : Prop where
  ruleId : notification.ruleId = rule.id
  ruleName : notification.ruleName = rule.name
  recordName : stage.2.Called notification.recordName
  parameters : notification.parameters = stage.1.parameters
  createdAt : notification.createdAt = now

/-- The actions of a rule that count are those that took effect on the record that was left for them; each other
one, for one of a few reasons, leaves this record as it is, although actions change it in place. Every notifying
action hands one notification on, in their order, with the name of the record at its turn. -/
theorem actions_counted_or_without_trace (rule : Rule) {record : Record} (now : Instant)
    (ordered : Fields.Ordered record) (parameters : ∀ action ∈ rule.actions, Fields.Ordered action.parameters) :
    rule.run record now = rule.effect record now ∧
    (Action.trail now rule.actions record).map Prod.fst = rule.actions ∧
    (rule.run record now).applied =
      (Action.trail now rule.actions record).countP (fun stage => !decide (stage.1.Skipped stage.2)) ∧
    (∀ stage ∈ Action.trail now rule.actions record,
      (stage.1.Skipped stage.2 → stage.1.execute stage.2 now = (false, stage.2)) ∧
      (¬stage.1.Skipped stage.2 → ∃ changed, stage.1.perform? stage.2 now = some changed ∧
        stage.1.execute stage.2 now = (true, changed))) ∧
    List.Forall₂ (Notification.Announces rule now)
      ((Action.trail now rule.actions record).filter (fun stage => stage.1.kind = .notify))
      (rule.run record now).notifications := by
  refine ⟨?inPlace, Action.map_fst_trail now rule.actions record, ?counted, ?stages, ?notified⟩
  case inPlace =>
    rw [Rule.run, Effect.foldl_next ordered parameters, Nat.zero_add, List.nil_append]
    rfl
  case counted => rw [Rule.run, Effect.applied_foldl_next ordered parameters, Nat.zero_add]
  case stages =>
    intro stage mem
    have given := Action.ordered_of_mem_trail ordered parameters mem
    exact ⟨Action.execute_of_skipped given now, Action.execute_of_not_skipped given now⟩
  case notified =>
    rw [Rule.run, Effect.notifications_foldl_next, List.nil_append]
    refine List.forall₂_map_right_iff.2 (List.forall₂_same.2 (fun stage _ => ?_))
    exact ⟨rfl, rfl, stage.2.called_name?, rfl, rfl⟩

/-- The vendor with an amount and a list of ratings. -/
def ratedOrder : Record :=
  Record.ratedVendor.insert "amount" (.ofNat 5)

/-- A total is written below a rating, which is no object, after one that is written. -/
def totalsThenNotice : Rule :=
  unconditional
    [⟨.calculate, [("fields", .array [.string "amount"]), ("target", .string "totals.net")]⟩,
      ⟨.calculate, [("fields", .array [.string "amount"]), ("target", .string "vendor.ratings.0.net")]⟩,
      ⟨.notify, []⟩]

theorem blocked_total_without_trace :
    (totalsThenNotice.run ratedOrder ⟨0, 0⟩).applied = 2 ∧
      (totalsThenNotice.run ratedOrder ⟨0, 0⟩).notifications.map (·.recordName) = [some "PR-7"] ∧
      List.Forall₂ (Notification.Announces totalsThenNotice ⟨0, 0⟩)
        ((Action.trail ⟨0, 0⟩ totalsThenNotice.actions ratedOrder).filter (fun stage => stage.1.kind = .notify))
        (totalsThenNotice.run ratedOrder ⟨0, 0⟩).notifications ∧
      totalsThenNotice.run ratedOrder ⟨0, 0⟩ = totalsThenNotice.effect ratedOrder ⟨0, 0⟩ := by
  have amount : (Json.ofNat 5).Ordered := .number _
  have ordered : Fields.Ordered ratedOrder := Record.ordered_ratedVendor.insert "amount" amount
  have parameters : ∀ action ∈ totalsThenNotice.actions, Fields.Ordered action.parameters := by
    have total : Json.read "\x7b\"target\":\"totals.net\",\"fields\":[\"amount\"]\x7d" =
        .ok (.object [("fields", .array [.string "amount"]), ("target", .string "totals.net")]) := by
      with_unfolding_all rfl
    have blocked : Json.read "\x7b\"target\":\"vendor.ratings.0.net\",\"fields\":[\"amount\"]\x7d" =
        .ok (.object [("fields", .array [.string "amount"]), ("target", .string "vendor.ratings.0.net")]) := by
      with_unfolding_all rfl
    intro action mem
    obtain rfl | rfl | rfl := by simpa [totalsThenNotice, unconditional] using mem
    · exact Json.ordered_read total
    · exact Json.ordered_read blocked
    · exact .nil
  obtain ⟨inPlace, -, counted, -, notified⟩ :=
    actions_counted_or_without_trace totalsThenNotice ⟨0, 0⟩ ordered parameters
  refine ⟨counted.trans ?_, ?_, notified, inPlace⟩
  · decide +kernel
  · decide +kernel

end Verdict
