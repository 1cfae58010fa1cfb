import Verdict.Text.Percent
import Verdict.Text.Segments
/-!
The routes of the service. A path is matched segment by segment as it is written; a fixed segment goes
before the one that stands for the name of a rule, and only that name is decoded.
-/

namespace Verdict.Http

inductive Route where
  | health
  | rules
  | loadRules
  | ruleStatistics
  | rule (segment : String)
  | validate
  | validateBatch
  | history
  | validationStatistics
  | approvalRules
  | purchaseRequest
deriving DecidableEq, Repr

namespace Route

def pattern : Route → String
  | health => "/health"
  | rules => "/api/rules"
  | loadRules => "/api/rules/load"
  | ruleStatistics => "/api/rules/stats"
  | rule _ => "/api/rules/\x7bid\x7d"
  | validate => "/api/validate"
  | validateBatch => "/api/validate/batch"
  | history => "/api/validate/history"
  | validationStatistics => "/api/validate/stats"
  | approvalRules => "/api/purchase-requests/approval-rules"
  | purchaseRequest => "/api/purchase-requests/process"

def pathSegments (path : List Char) : List String :=
  ((Text.splitAtMark '/' path).drop 1).map String.ofList

def of? (path : List Char) : Option Route :=
  match pathSegments path with
  | ["health"] => some health
  | ["api", "rules"] => some rules
  | ["api", "rules", "load"] => some loadRules
  | ["api", "rules", "stats"] => some ruleStatistics
  | ["api", "rules", segment] => if segment.isEmpty then none else some (rule segment)
  | ["api", "validate"] => some validate
  | ["api", "validate", "batch"] => some validateBatch
  | ["api", "validate", "history"] => some history
  | ["api", "validate", "stats"] => some validationStatistics
  | ["api", "purchase-requests", "approval-rules"] => some approvalRules
  | ["api", "purchase-requests", "process"] => some purchaseRequest
  | _ => none

end Route

inductive Endpoint where
  | health
  | listRules
  | loadRules
  | ruleStatistics
  | readRule (segment : String)
  | changeRule (segment : String)
  | removeRule (segment : String)
  | validate
  | validateBatch
  | history
  | validationStatistics
  | loadApprovalRules
  | process
deriving DecidableEq, Repr

/-- What a method asks of a route. The headers of what can be read can be asked for alone. -/
def Route.endpoint? (route : Route) (method : String) : Option Endpoint :=
  let reads := method == "GET" || method == "HEAD"
  match route with
  | .health => if reads then some .health else none
  | .rules => if reads then some .listRules else none
  | .loadRules => if method == "POST" then some .loadRules else none
  | .ruleStatistics => if reads then some .ruleStatistics else none
  | .rule segment =>
    if reads then some (.readRule segment)
    else if method == "PUT" then some (.changeRule segment)
    else if method == "DELETE" then some (.removeRule segment)
    else none
  | .validate => if method == "POST" then some .validate else none
  | .validateBatch => if method == "POST" then some .validateBatch else none
  | .history => if reads then some .history else none
  | .validationStatistics => if reads then some .validationStatistics else none
  | .approvalRules => if method == "POST" then some .loadApprovalRules else none
  | .purchaseRequest => if method == "POST" then some .process else none

/-- The name of a rule that a segment writes, if its bytes are UTF-8. -/
def ruleName? (segment : String) : Option String :=
  Text.ofBytes? (Text.percentDecoded segment.toList)

end Verdict.Http
