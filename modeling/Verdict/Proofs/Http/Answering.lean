import Verdict.Http.Site
import Verdict.Proofs.Service.Serialization
/-!
Answers reach the one who asked. An envelope can be written if what is in it can, and a batch returns from its task,
so that the pool hands on its answer.
-/

namespace Verdict.Http

open Time (Instant)

theorem write_enveloped (message : String) {data : Content} {json : Json} (written : data.write = .ok json) :
    (enveloped message data).write = .ok (envelope message json) := by
  simp (disch := decide) [enveloped, envelope, Content.write_fields, written, Fields.ofEntries, Fields.insert_nil,
    Fields.insert_front, Fields.insert_behind, Except.bind, Except.map]

theorem Refusal.status_ne (refusal : Refusal) : refusal.status ≠ 200 := by
  unfold status
  split <;> decide

namespace Response

theorem written_value (json : Json) : written (.value json) = .json json := by
  rw [written, Content.write_value]

theorem ofResult_ok (message : String) {data : Content} {json : Json} (written : data.write = .ok json) :
    ofResult message (.ok data) = .json (envelope message json) := by
  rw [ofResult, Response.written, write_enveloped message written]

theorem ofAnswer_ok {α : Type} (message : String) {encode : α → Content} {json : α → Json}
    (writes : ∀ value, (encode value).write = .ok (json value)) (value : α) :
    ofAnswer message encode (.ok value) = .json (envelope message (json value)) :=
  ofResult_ok message (writes value)

/-- The status tells whether there is an answer. -/
theorem status_ofAnswer_iff {α : Type} {message : String} {encode : α → Content} {json : α → Json}
    (writes : ∀ value, (encode value).write = .ok (json value)) {answer : Except RuleError α} :
    (ofAnswer message encode answer).status = 200 ↔ ∃ value, answer = .ok value := by
  cases answer with
  | ok value => exact ⟨fun _ => ⟨value, rfl⟩, fun _ => congrArg status (ofAnswer_ok message writes value)⟩
  | error error =>
    refine ⟨fun refused => absurd refused (Refusal.status_ne _), fun answered => ?_⟩
    obtain ⟨value, impossible⟩ := answered
    cases impossible

end Response

theorem Site.answered_ok {α : Type} (message : String) {encode : α → Content} {json : α → Json}
    (writes : ∀ value, (encode value).write = .ok (json value)) (value : α) (service : Service) :
    answered message encode (.ok value, service) = (.json (envelope message (json value)), service) :=
  congrArg (·, service) (Response.ofAnswer_ok message writes value)

theorem countsFailures_eq_true (outcome : BatchOutcome) : countsFailures outcome = true := by
  rw [countsFailures, Bool.and_eq_true, decide_eq_true_iff, List.all_eq_true]
  refine ⟨List.countP_le_length, fun entry _ => ?_⟩
  rw [decide_eq_true_iff]
  exact List.countP_le_length

/-- No pool loses a batch. -/
theorem Pool.join_batchTask (pool : Pool (Answered BatchOutcome)) (service : Service) (records : List Record)
    (options : Options) (clock : Nat → Instant) (now : Instant) :
    pool.join (batchTask service records options clock now) =
      .ok (service.validateBatch records options clock now) := by
  have returns : batchTask service records options clock now =
      .returned (service.validateBatch records options clock now) := by
    unfold batchTask
    split
    next outcome => rw [outcome]
    next outcome => rw [if_pos (countsFailures_eq_true _), outcome]
  rw [returns, pool.join_returned]

end Verdict.Http
