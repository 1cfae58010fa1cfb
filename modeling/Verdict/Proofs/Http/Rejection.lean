import Verdict.Proofs.Http.Answering
import Verdict.Proofs.Service.Failure
/-!
How a site tells of failures. A request asks for an operation of the service, or misses it; the status of the
answer tells which of these happened and whether the operation failed, and it never puts the blame on the
service.
-/

namespace Verdict.Http

open Time (Instant)

/-- Why a request is not served: it reaches no operation, or is refused on the way or by the operation. -/
inductive Failure where
  | unknownPath
  | unknownMethod
  | unreadableName
  | refused (refusal : Refusal)

def Failure.status : Failure → Nat
  | unknownPath => 404
  | unknownMethod => 405
  | unreadableName => 400
  | refused refusal => refusal.status

namespace Endpoint

def payload (request : Request) : Except Failure Json :=
  request.payload.mapError .refused

def accepted {α : Type} (outcome : Except RuleError α) : Except Failure α :=
  outcome.mapError (fun error => .refused (.rule error))

def ruleName (segment : String) : Except Failure String :=
  (ruleName? segment).elim (.error .unreadableName) .ok

/-- The operation of the service that a request to an endpoint asks for; the state of the site is told without
one. -/
def operation? (request : Request) (now : Instant) : Endpoint → Except Failure (Option Service.Operation)
  | .health => .ok none
  | .listRules => .ok (some .getRules)
  | .loadRules => return some (.loadRules (← payload request))
  | .ruleStatistics => .ok (some .ruleStatistics)
  | .readRule segment => return some (.getRule (← ruleName segment))
  | .changeRule segment => return some (.updateRule (← ruleName segment) (← payload request))
  | .removeRule segment => return some (.deleteRule (← ruleName segment))
  | .validate => do
    let wanted ← accepted (EvaluationRequest.accept (← payload request))
    return some (.validate wanted.record wanted.options)
  | .validateBatch => do
    let wanted ← accepted (BatchRequest.accept (← payload request))
    return some (.validateBatch wanted.records wanted.options (fun _ => now))
  | .history =>
    match HistoryQuery.read request.query with
    | .error fault => .error (.refused (.badQuery fault))
    | .ok wanted => .ok (some (.history (wanted.page.getD 1) (wanted.limit.getD 10) wanted.status))
  | .validationStatistics => .ok (some .validationStatistics)
  | .loadApprovalRules => return some (.loadApprovalRules (← payload request))
  | .process => do
    match (← payload request) with
    | .object record => return some (.process record)
    | _ => .error (.refused (.rule (.schema .requestNotObject)))

end Endpoint

def Request.operation? (request : Request) (now : Instant) : Except Failure (Option Service.Operation) :=
  if request.method == "OPTIONS" then .ok none
  else
    match Route.of? request.path with
    | none => .error .unknownPath
    | some route =>
      match route.endpoint? request.method with
      | none => .error .unknownMethod
      | some endpoint => endpoint.operation? request now

/-- What is asked of a service, with the failure that it ends with, if any, and the service after it. -/
def carryOut (service : Service) (now : Instant) :
    Except Failure (Option Service.Operation) → Option Failure × Service
  | .error failure => (some failure, service)
  | .ok none => (none, service)
  | .ok (some operation) =>
    let (failure, after) := service.perform operation now
    (failure.map (fun error => .refused (.rule error)), after)

/-- What is served tells of an outcome by its status, and leaves the service of the outcome. -/
structure Tells (served : Response × Service) (outcome : Option Failure × Service) : Prop where
  status : served.1.status = outcome.1.elim 200 Failure.status
  service : served.2 = outcome.2

namespace Tells

variable {α : Type} {service : Service} {now : Instant}

/-- An answer tells of its operation by its status if what it gives can be written. -/
theorem ofAnswer (message : String) {encode : α → Content} {json : α → Json}
    (writes : ∀ value, (encode value).write = .ok (json value)) (answer : Except RuleError α) :
    Tells (.ofAnswer message encode answer, service)
      ((Service.perform.failure answer).map (fun error => .refused (.rule error)), service) := by
  cases answer with
  | ok value => exact ⟨congrArg Response.status (Response.ofAnswer_ok message writes value), rfl⟩
  | error error => exact ⟨rfl, rfl⟩

theorem ofContent (message : String) {data : Content} {json : Json} (written : data.write = .ok json) :
    Tells (.ofResult message (.ok data), service) (none, service) :=
  ⟨congrArg Response.status (Response.ofResult_ok message written), rfl⟩

theorem withPayload {request : Request} {serve : Json → Response × Service}
    {next : Json → Except Failure (Option Service.Operation)}
    (served : ∀ payload, Tells (serve payload) (carryOut service now (next payload))) :
    Tells (Site.withPayload service request serve)
      (carryOut service now (Endpoint.payload request >>= next)) := by
  unfold Site.withPayload Endpoint.payload
  cases request.payload with
  | ok payload => exact served payload
  | error refusal => exact ⟨rfl, rfl⟩

theorem withRuleName {segment : String} {serve : String → Response × Service}
    {next : String → Except Failure (Option Service.Operation)}
    (served : ∀ name, Tells (serve name) (carryOut service now (next name))) :
    Tells (Site.withRuleName service segment serve)
      (carryOut service now (Endpoint.ruleName segment >>= next)) := by
  unfold Site.withRuleName Endpoint.ruleName
  cases ruleName? segment with
  | some name => exact served name
  | none => exact ⟨rfl, rfl⟩

end Tells

namespace Site

variable (site : Site) (request : Request) (now : Instant)

/-- An endpoint carries out the operation that a request asks it for, and nothing else. -/
theorem tells_serve (endpoint : Endpoint) :
    Tells (site.serve request now endpoint) (carryOut site.service now (endpoint.operation? request now)) := by
  cases endpoint with
  | health => exact ⟨congrArg Response.status (Response.written_value _), rfl⟩
  | listRules => exact .ofAnswer _ Snapshot.write_content _
  | loadRules => exact .withPayload (fun payload => .ofAnswer _ LoadReport.write_content _)
  | ruleStatistics => exact .ofContent _ (Store.Statistics.write_content _)
  | readRule segment => exact .withRuleName (fun name => .ofAnswer _ Rule.write_content _)
  | changeRule segment =>
    exact .withRuleName (fun name => .withPayload (fun payload => .ofAnswer _ Rule.write_content _))
  | removeRule segment => exact .withRuleName (fun name => .ofAnswer _ Rule.write_content _)
  -- Behind its payload a validation can still be refused for its document, before any operation.
  | validate =>
    refine .withPayload (fun payload => ?_)
    cases accepted : EvaluationRequest.accept payload with
    | error error => exact ⟨rfl, rfl⟩
    | ok wanted => exact .ofAnswer _ Summary.write_content _
  | validateBatch =>
    refine .withPayload (fun payload => ?_)
    cases accepted : BatchRequest.accept payload with
    | error error => exact ⟨rfl, rfl⟩
    | ok wanted =>
      simp only [Pool.join_batchTask]
      exact .ofAnswer _ BatchOutcome.write_content _
  | history =>
    simp only [serve, Endpoint.operation?, historyPage]
    cases HistoryQuery.read request.query with
    | error fault => exact ⟨rfl, rfl⟩
    | ok wanted => exact .ofContent _ (History.Page.write_content _)
  | validationStatistics => exact .ofContent _ (History.Statistics.write_content _)
  | loadApprovalRules => exact .withPayload (fun payload => .ofAnswer _ LoadReport.write_content _)
  | process =>
    refine .withPayload (fun payload => ?_)
    cases payload with
    | object record => exact .ofAnswer _ (fun processed => Content.write_value (.object processed)) _
    | _ => exact ⟨rfl, rfl⟩

theorem tells_respond :
    Tells (site.respond request now) (carryOut site.service now (request.operation? now)) := by
  unfold respond Request.operation?
  by_cases asks : (request.method == "OPTIONS") = true
  · rw [if_pos asks, if_pos asks]
    exact ⟨rfl, rfl⟩
  · rw [if_neg asks, if_neg asks]
    cases Route.of? request.path with
    | none => exact ⟨rfl, rfl⟩
    | some route =>
      simp only
      cases route.endpoint? request.method with
      | none => exact ⟨rfl, rfl⟩
      | some endpoint =>
        -- A request for the headers alone goes without the body, but with the same status.
        obtain ⟨status, service⟩ := site.tells_serve request now endpoint
        refine ⟨?_, service⟩
        simp only [← status]
        split <;> rfl

end Site

/-- A failure whose status lays it on the request. -/
def Failure.Blames (failure : Failure) : Prop :=
  400 ≤ failure.status ∧ failure.status < 500

theorem Failure.blames_of_status {failure : Failure}
    (told : failure.status = 400 ∨ failure.status = 404 ∨ failure.status = 405) : failure.Blames := by
  unfold Blames
  omega

theorem Failure.blames_rule {error : RuleError} (outside : error.isInternal = false) :
    (refused (.rule error)).Blames := by
  cases error with
  | evaluation fault => cases outside
  | json cause => cases outside
  | ruleNotFound id => exact blames_of_status (.inr (.inl rfl))
  | rulesNotLoaded => exact blames_of_status (.inr (.inl rfl))
  | schema fault => exact blames_of_status (.inl rfl)
  | noActiveRules => exact blames_of_status (.inl rfl)
  | badExpression error owner => exact blames_of_status (.inl rfl)

/-- What fails only by requests that are to blame. -/
abbrev Blaming {α : Type} (outcome : Except Failure α) : Prop :=
  Outcome.FailsOnly Failure.Blames outcome

namespace Endpoint

variable (request : Request) (now : Instant)

theorem blaming_payload : Blaming (payload request) := by
  unfold payload Request.payload
  split
  · exact .error (Failure.blames_of_status (.inl rfl))
  · split
    · exact .error (Failure.blames_of_status (.inl rfl))
    · cases request.body.read with
      | error complaint => exact .error (Failure.blames_of_status (.inl rfl))
      | ok payload => exact .ok payload

theorem blaming_accepted {α : Type} {outcome : Except RuleError α} (outside : External outcome) :
    Blaming (accepted outcome) :=
  outside.mapError (fun _ => Failure.blames_rule)

theorem blaming_ruleName (segment : String) : Blaming (ruleName segment) := by
  unfold ruleName
  cases ruleName? segment with
  | none => exact .error (Failure.blames_of_status (.inl rfl))
  | some name => exact .ok name

theorem blaming_operation? (endpoint : Endpoint) : Blaming (endpoint.operation? request now) := by
  have payload := blaming_payload request
  cases endpoint with
  | health => exact .ok _
  | listRules => exact .ok _
  | loadRules => exact payload.bind (fun _ => .ok _)
  | ruleStatistics => exact .ok _
  | readRule segment => exact (blaming_ruleName segment).bind (fun _ => .ok _)
  | changeRule segment => exact (blaming_ruleName segment).bind (fun _ => payload.bind (fun _ => .ok _))
  | removeRule segment => exact (blaming_ruleName segment).bind (fun _ => .ok _)
  | validate =>
    refine payload.bind (fun document => (blaming_accepted ?_).bind (fun _ => .ok _))
    exact Document.external_read .evaluationRequest _ document
  | validateBatch =>
    refine payload.bind (fun document => (blaming_accepted ?_).bind (fun _ => .ok _))
    exact Document.external_read .batchRequest _ document
  | history =>
    simp only [operation?]
    cases HistoryQuery.read request.query with
    | error fault => exact .error (Failure.blames_of_status (.inl rfl))
    | ok wanted => exact .ok _
  | validationStatistics => exact .ok _
  | loadApprovalRules => exact payload.bind (fun _ => .ok _)
  | process =>
    refine payload.bind (fun document => ?_)
    cases document with
    | object record => exact .ok _
    | _ => exact .error (Failure.blames_rule rfl)

end Endpoint

theorem Request.blaming_operation? (request : Request) (now : Instant) : Blaming (request.operation? now) := by
  unfold operation?
  split
  · exact .ok none
  · split
    · exact .error (Failure.blames_of_status (.inr (.inl rfl)))
    · split
      · exact .error (Failure.blames_of_status (.inr (.inr rfl)))
      · exact Endpoint.blaming_operation? request now _

theorem blames_of_carryOut {asked : Except Failure (Option Service.Operation)} (blaming : Blaming asked)
    {service : Service} {now : Instant} {failure : Failure}
    (failed : (carryOut service now asked).1 = some failure) : failure.Blames := by
  match asked, blaming, failed with
  | .error problem, blaming, failed =>
    cases failed
    exact blaming failure rfl
  | .ok none, _, failed => cases failed
  | .ok (some operation), _, failed =>
    obtain ⟨error, ended, rfl⟩ := Option.map_eq_some_iff.1 failed
    exact Failure.blames_rule (Service.isInternal_of_perform ended)

/-- A request, the failure that it ended with, if any, and the reply to it. -/
structure Exchange where
  request : Request
  failure : Option Failure
  reply : Reply

namespace Site

def exchange (site : Site) (request : Request) (now : Instant) : Exchange :=
  ⟨request, (carryOut site.service now (request.operation? now)).1, (site.answer request now).1⟩

/-- What comes of requests at their times, one after the other. -/
def exchanges : Site → List (Request × Instant) → List Exchange
  | _, [] => []
  | site, (request, now) :: rest => site.exchange request now :: (site.answer request now).2.exchanges rest

end Site

/-- A reply with status 200 to a request that nothing was wrong with, or with a status that lays the failure on
the request. -/
def Exchange.Fair (exchange : Exchange) : Prop :=
  exchange.failure = none ∧ exchange.reply.status = 200 ∨
    ∃ failure, exchange.failure = some failure ∧ exchange.reply.status = failure.status ∧
      400 ≤ exchange.reply.status ∧ exchange.reply.status < 500

namespace Site

theorem fair_exchange (site : Site) (request : Request) (now : Instant) :
    (site.exchange request now).Fair := by
  have status : (site.exchange request now).reply.status =
      (site.exchange request now).failure.elim 200 Failure.status := (site.tells_respond request now).status
  cases failure : (site.exchange request now).failure with
  | none =>
    rw [failure] at status
    exact .inl ⟨failure, status⟩
  | some problem =>
    rw [failure] at status
    have blames : problem.Blames := blames_of_carryOut (request.blaming_operation? now) failure
    refine .inr ⟨problem, failure, status, ?_⟩
    rw [status]
    exact blames

theorem fair_exchanges (site : Site) (requests : List (Request × Instant)) :
    ∀ exchange ∈ site.exchanges requests, exchange.Fair := by
  induction requests generalizing site with
  | nil =>
    intro exchange member
    cases member
  | cons first rest ih =>
    obtain ⟨request, now⟩ := first
    exact List.forall_mem_cons.2 ⟨site.fair_exchange request now, ih _⟩

/-- What is given back for validations can be written, operations never end with an error of the evaluation or of the
serialization, and whatever requests a new site gets, each failure is told by a status between 400 and 499 and
everything else by 200. -/
theorem failures_blame_requests (capacity : Nat) (startedAt : Instant) (ids : Nat → String)
    (pool : Pool (Answered BatchOutcome)) (requests : List (Request × Instant)) :
    ((∀ summary : Summary, summary.content.write = .ok summary.toJson) ∧
        ∀ outcome : BatchOutcome, outcome.content.write = .ok outcome.toJson) ∧
      (∀ (service : Service) (operation : Service.Operation) (now : Instant),
        (∀ fault, (service.perform operation now).1 ≠ some (.evaluation fault)) ∧
          ∀ cause, (service.perform operation now).1 ≠ some (.json cause)) ∧
      ∀ exchange ∈ (new capacity startedAt ids pool).exchanges requests, exchange.Fair := by
  refine ⟨⟨Summary.write_content, BatchOutcome.write_content⟩,
    fun service operation now => ⟨fun fault failed => ?_, fun cause failed => ?_⟩, ?_⟩
  · cases Service.isInternal_of_perform failed
  · cases Service.isInternal_of_perform failed
  · exact (new capacity startedAt ids pool).fair_exchanges requests

/-- A path and a method that nothing answers to, rules and a batch asked for before any rules are loaded, and a record
that is not said to be JSON. -/
def strayRequests : List (Request × Instant) :=
  [(⟨"GET", "/rules", none, none, ""⟩, ⟨0, 0⟩), (⟨"PATCH", "/api/rules", none, none, ""⟩, ⟨1, 0⟩),
    (⟨"GET", "/api/rules", none, none, ""⟩, ⟨2, 0⟩),
    (⟨"POST", "/api/validate/batch", some "application/json", none, "\x7b\"procurement_records\":[\x7b\x7d]\x7d"⟩, ⟨3, 0⟩),
    (⟨"POST", "/api/validate", none, none, "null"⟩, ⟨4, 0⟩),
    (⟨"OPTIONS", "*", none, none, ""⟩, ⟨5, 0⟩)]

theorem stray_requests_blamed :
    ((new 1 ⟨0, 0⟩).exchanges strayRequests).map (fun exchange => exchange.reply.status) =
        [404, 405, 404, 400, 400, 200] ∧
      ((∀ summary : Summary, summary.content.write = .ok summary.toJson) ∧
        ∀ outcome : BatchOutcome, outcome.content.write = .ok outcome.toJson) ∧
      (∀ (service : Service) (operation : Service.Operation) (now : Instant),
        (∀ fault, (service.perform operation now).1 ≠ some (.evaluation fault)) ∧
          ∀ cause, (service.perform operation now).1 ≠ some (.json cause)) ∧
      ∀ exchange ∈ (new 1 ⟨0, 0⟩).exchanges strayRequests, exchange.Fair :=
  ⟨by decide +kernel, failures_blame_requests 1 ⟨0, 0⟩ (Text.paddedHex 32) .plain strayRequests⟩

end Site

end Verdict.Http
