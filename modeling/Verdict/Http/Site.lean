import Verdict.Http.MediaType
import Verdict.Http.Query
import Verdict.Http.Route
import Verdict.Http.Task
import Verdict.Json.Reader
import Verdict.Service.Basic
/-!
The service on the web. Every answer of an operation is wrapped in one envelope; requests are counted by
method, pattern of the route and status of the answer.
-/

namespace Verdict.Http

open Time (Instant)

/-- The body of a request: a text, or bytes that are no UTF-8. Such bytes are never JSON; where a reader stops
in them, and why, comes with them. -/
inductive Body where
  | text (content : String)
  | bytes (size : Nat) (complaint : String)
deriving Repr

instance : Coe String Body := ⟨.text⟩

def Body.size : Body → Nat
  | text content => content.utf8ByteSize
  | bytes size _ => size

def Body.read : Body → Except String Json
  | text content => (Json.read content).mapError Json.ReadError.message
  | bytes _ complaint => .error complaint

/-- A request. The target is a path with an optional query and an optional fragment, and may have a scheme
and an authority before it. -/
structure Request where
  method : String
  target : String
  contentType : Option String
  requestId : Option String
  body : Body
deriving Repr

structure Reply where
  status : Nat
  body : String
  requestId : Option String
deriving DecidableEq, Repr

namespace Request

/-- A target without scheme and authority. Behind an authority the path is never empty. -/
def withoutAuthority (target : List Char) : List Char :=
  match target.dropWhile (fun character => character != ':' && character != '/') with
  | ':' :: '/' :: '/' :: rest =>
    match rest.dropWhile (fun character =>
        character != '/' && character != '?' && character != '#') with
    | '/' :: path => '/' :: path
    | other => '/' :: other
  | _ => target

/-- The target from its path on, without its fragment. -/
def location (request : Request) : List Char :=
  (withoutAuthority request.target.toList).takeWhile (· != '#')

def path (request : Request) : List Char :=
  request.location.takeWhile (· != '?')

def query (request : Request) : List Char :=
  (request.location.dropWhile (· != '?')).drop 1

end Request

inductive Refusal where
  | rule (error : RuleError)
  | badBody (reason : String)
  | badQuery (fault : QueryFault)
  | internal (reason : String)
deriving Repr

namespace Refusal

def status : Refusal → Nat
  | rule (.ruleNotFound _) => 404
  | rule .rulesNotLoaded => 404
  | rule (.evaluation _) => 500
  | rule (.json _) => 500
  | internal _ => 500
  | _ => 400

def code : Refusal → String
  | rule error => error.code
  | badBody _ => "INVALID_BODY"
  | badQuery _ => "INVALID_QUERY"
  | internal _ => "INTERNAL_ERROR"

/-- The wording of a refusal; faults of the service are not told. -/
def message (refusal : Refusal) : String :=
  if 500 ≤ refusal.status then "服务内部错误，请稍后重试"
  else
    match refusal with
    | rule error => error.message
    | badBody reason => "请求体无效: " ++ reason
    | badQuery fault => "查询参数无效: Failed to deserialize query string: " ++ fault.message
    | internal reason => "内部错误: " ++ reason

def data : Refusal → Json
  | rule error =>
    match error.details, error.position? with
    | [], none => .null
    | [], some position => .object [("position", .ofNat position)]
    | details, _ =>
      .object
        [("details",
          .array (details.map (fun detail =>
            .object [("field", .string detail.path), ("message", .string detail.violation.message)])))]
  | _ => .null

def toJson (refusal : Refusal) : Json :=
  .object
    [("code", .string refusal.code), ("data", refusal.data), ("message", .string refusal.message),
      ("success", .bool false)]

end Refusal

def envelope (message : String) (data : Json) : Json :=
  .object
    [("code", .string "SUCCESS"), ("data", data), ("message", .string message), ("success", .bool true)]

/-- What is handed to the writer for the envelope of an answer. -/
def enveloped (message : String) (data : Content) : Content :=
  .fields
    [(some "success", .value (.bool true)), (some "code", .text "SUCCESS"), (some "message", .text message),
      (some "data", data)]

def done : String := "操作成功"

def bodyLimit : Nat := 10 * 1024 * 1024

structure Response where
  status : Nat
  body : String
deriving DecidableEq, Repr

namespace Response

def json (value : Json) : Response := ⟨200, value.text⟩

/-- An answer as it is written, or why it cannot be. -/
def written (content : Content) : Response :=
  match content.write with
  | .ok value => json value
  | .error cause => ⟨500, cause.message⟩

def ofResult (message : String) : Except Refusal Content → Response
  | .ok data => written (enveloped message data)
  | .error refusal => ⟨refusal.status, refusal.toJson.text⟩

def ofAnswer (message : String) (encode : α → Content) (answer : Except RuleError α) : Response :=
  ofResult message ((answer.map encode).mapError .rule)

end Response

def Request.payload (request : Request) : Except Refusal Json :=
  if !request.contentType.any isJsonType then
    .error (.badBody "Expected request with `Content-Type: application/json`")
  else if bodyLimit < request.body.size then
    .error (.badBody "Failed to buffer the request body: length limit exceeded")
  else
    request.body.read.mapError
      (fun complaint => .badBody ("Failed to parse the request body as JSON: " ++ complaint))

structure Site where
  service : Service
  startedAt : Instant
  requests : Counters
  pool : Pool (Answered BatchOutcome)

namespace Site

def new (historyCapacity : Nat) (now : Instant) (ids : Nat → String := Text.paddedHex 32)
    (pool : Pool (Answered BatchOutcome) := .plain) : Site :=
  ⟨.new historyCapacity ids, now, [], pool⟩

def withPayload (service : Service) (request : Request) (serve : Json → Response × Service) :
    Response × Service :=
  match request.payload with
  | .ok payload => serve payload
  | .error refusal => (.ofResult done (.error refusal), service)

def withRuleName (service : Service) (segment : String) (serve : String → Response × Service) :
    Response × Service :=
  match ruleName? segment with
  | some name => serve name
  | none => (⟨400, "Invalid URL: Invalid UTF-8 in `id`"⟩, service)

def answered (message : String) (encode : α → Content) (answer : Answered α) : Response × Service :=
  (.ofAnswer message encode answer.1, answer.2)

def health (site : Site) (now : Instant) : Json :=
  .object
    [("service", .string "rule-engine"), ("status", .string "OK"), ("timestamp", .string now.text),
      ("uptime", .ofFloat (Float.ofInt (now.since site.startedAt) / 1000000000))]

def historyPage (service : Service) (query : List Char) : Except Refusal Content :=
  match HistoryQuery.read query with
  | .error fault => .error (.badQuery fault)
  | .ok wanted =>
    .ok (service.history.query (wanted.page.getD 1) (wanted.limit.getD 10) wanted.status).content

def serve (site : Site) (request : Request) (now : Instant) : Endpoint → Response × Service
  | .health => (.json (site.health now), site.service)
  | .listRules => (.ofAnswer done Snapshot.content site.service.getRules, site.service)
  | .loadRules =>
    withPayload site.service request (fun payload =>
      answered "规则加载成功" LoadReport.content (site.service.loadRules payload now))
  | .ruleStatistics =>
    (.ofResult done (.ok site.service.rules.statistics.content), site.service)
  | .readRule segment =>
    withRuleName site.service segment (fun name =>
      (.ofAnswer done Rule.content (site.service.getRule name), site.service))
  | .changeRule segment =>
    withRuleName site.service segment (fun name =>
      withPayload site.service request (fun payload =>
        answered "规则更新成功" Rule.content (site.service.updateRule name payload now)))
  | .removeRule segment =>
    withRuleName site.service segment (fun name =>
      answered "规则删除成功" Rule.content (site.service.deleteRule name now))
  | .validate =>
    withPayload site.service request (fun payload =>
      match EvaluationRequest.accept payload with
      | .error error => (.ofResult done (.error (.rule error)), site.service)
      | .ok wanted => answered done Summary.content (site.service.validate wanted.record wanted.options now))
  | .validateBatch =>
    withPayload site.service request (fun payload =>
      match BatchRequest.accept payload with
      | .error error => (.ofResult done (.error (.rule error)), site.service)
      | .ok wanted =>
        match site.pool.join (batchTask site.service wanted.records wanted.options (fun _ => now) now) with
        | .ok answer => answered done BatchOutcome.content answer
        | .error reason => (.ofResult done (.error (.internal ("批量校验任务失败: " ++ reason))), site.service))
  | .history => (.ofResult done (historyPage site.service request.query), site.service)
  | .validationStatistics =>
    (.ofResult done (.ok site.service.history.statistics.content), site.service)
  | .loadApprovalRules =>
    withPayload site.service request (fun payload =>
      answered "审批规则加载成功" LoadReport.content (site.service.loadApprovalRules payload now))
  | .process =>
    withPayload site.service request (fun payload =>
      match payload with
      | .object record => (.ofAnswer done (.value ∘ .object) (site.service.process record now), site.service)
      | _ => (.ofResult done (.error (.rule (.schema .requestNotObject))), site.service))

/-- The response to a request. Questions about what is allowed are always answered with yes, an unknown
path is not found, and a method that a route does not know is not allowed; these answers have no body. -/
def respond (site : Site) (request : Request) (now : Instant) : Response × Service :=
  if request.method == "OPTIONS" then (⟨200, ""⟩, site.service)
  else
    match Route.of? request.path with
    | none => (⟨404, ""⟩, site.service)
    | some route =>
      match route.endpoint? request.method with
      | none => (⟨405, ""⟩, site.service)
      | some endpoint =>
        let (response, service) := site.serve request now endpoint
        (if request.method == "HEAD" then { response with body := "" } else response, service)

def isVisible (character : Char) : Bool :=
  character = '\t' || 32 ≤ character.toNat && character.toNat < 127

/-- How a request is counted: by the pattern of its route, or by its path if there is none. -/
def counter (request : Request) (status : Nat) : Counter :=
  .requests request.method
    ((Route.of? request.path).elim (String.ofList request.path) Route.pattern) status

/-- Answers a request and counts it. A request id that is visible text is handed back. -/
def answer (site : Site) (request : Request) (now : Instant) : Reply × Site :=
  let (response, service) := site.respond request now
  (⟨response.status, response.body, request.requestId.filter (fun id => id.toList.all isVisible)⟩,
    { site with
      service := service
      requests := site.requests.add (counter request response.status) 1 })

end Site

end Verdict.Http
