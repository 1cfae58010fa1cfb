import Verdict.Service.Basic
/-!
Batches as tasks beside the requests. A pool runs a task to its end and hands on what it returned; a task that panicked
is handed on as lost, with a reason. Nobody calls a task off.
-/

namespace Verdict.Http

open Time (Instant)

inductive Ended (α : Type) where
  | returned (value : α)
  | panicked (reason : String)
deriving Repr

/-- How a pool hands on a task that ended. What it says of a lost task is its own. -/
structure Pool (α : Type) where
  join : Ended α → Except String α
  join_returned : ∀ value, join (.returned value) = .ok value

def Pool.plain : Pool α where
  join
    | .returned value => .ok value
    | .panicked reason => .error ("task panicked: " ++ reason)
  join_returned _ := rfl

/-- Whether the numbers of failures of a batch, and of each of its records, are counts. -/
def countsFailures (outcome : BatchOutcome) : Bool :=
  outcome.passedRecords ≤ outcome.totalRecords &&
    outcome.entries.all (fun entry => entry.summary.passedRules ≤ entry.summary.totalRules)

/-- A batch as a task. A difference that is no count ends it before it writes anything. -/
def batchTask (service : Service) (records : List Record) (options : Options) (clock : Nat → Instant)
    (now : Instant) : Ended (Answered BatchOutcome) :=
  match service.validateBatch records options clock now with
  | (.error error, after) => .returned (.error error, after)
  | (.ok outcome, after) =>
    if countsFailures outcome then .returned (.ok outcome, after) else .panicked "attempt to subtract with overflow"

end Verdict.Http
