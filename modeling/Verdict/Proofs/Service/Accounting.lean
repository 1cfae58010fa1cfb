import Verdict.Proofs.Service.Serialization
import Verdict.Service.Operation
/-!
What the counters of a service tell of its past. Validations are counted before they are noted in the history,
and the history forgets its oldest entries; yet after any run of operations the counters account for every
validation and every load of rules, and for every entry of the history, kept or dropped.
-/

namespace Verdict

open Time (Instant)

namespace Counters

/-- The sum over all counters of a name, whatever their labels are. -/
def total : Counters → (name : String) → Nat
  | [], _ => 0
  | (counter, amount) :: rest, name => (if counter.name = name then amount else 0) + total rest name

theorem total_add (counters : Counters) (counter : Counter) (amount : Nat) (name : String) :
    (add counters counter amount).total name =
      counters.total name + if counter.name = name then amount else 0 := by
  induction counters with
  | nil =>
    by_cases zero : amount = 0
    · simp [add, total, zero]
    · simp [add, total, zero]
  | cons entry rest ih =>
    obtain ⟨first, old⟩ := entry
    by_cases same : first = counter
    · subst same
      by_cases named : first.name = name
      · simp only [add, total, named, if_true]
        omega
      · simp [add, total, named]
    · simp only [add, total, same, if_false, ih]
      omega

/-- The counters after a validation: a batch is counted twice, as an evaluation and as a batch. -/
def validated (counters : Counters) (mode : Mode) (passed : Bool) : Counters :=
  match mode with
  | .single => counters.add (.evaluations .single passed) 1
  | .batch => (counters.add (.evaluations .batch passed) 1).add (.batches passed) 1

theorem count_add (counters : Counters) (counter other : Counter) (amount : Nat) :
    (add counters counter amount).count other =
      counters.count other + if counter = other then amount else 0 := by
  by_cases same : counter = other
  · subst same
    rw [count_add_self, if_pos rfl]
  · rw [count_add_of_ne counters amount same, if_neg same, Nat.add_zero]

end Counters

namespace Service

/-- An operation that was performed, with the error that it ended with, if any. -/
structure Call where
  operation : Operation
  failure : Option RuleError

def Call.validated (call : Call) : Bool :=
  match call.operation with
  | .validate _ _ => call.failure.isNone
  | .validateBatch _ _ _ => call.failure.isNone
  | _ => false

def Call.loading (call : Call) : Bool :=
  match call.operation with
  | .loadRules _ => true
  | _ => false

def call (service : Service) (operation : Operation) (now : Instant) : Call :=
  ⟨operation, (service.perform operation now).1⟩

/-- What operations at their times come to, one after the other. -/
def calls : Service → List (Operation × Instant) → List Call
  | _, [] => []
  | service, (operation, now) :: rest =>
    service.call operation now :: (service.perform operation now).2.calls rest

/-- The counters and the history of a service account for the calls that led to it. -/
structure Accounts (service : Service) (calls : List Call) : Prop where
  validations : service.counters.total "rule_evaluations_total" = calls.countP Call.validated
  retained : service.counters.total "rule_evaluations_total" =
    service.history.entries.length + service.counters.count .evictions
  batches : ∀ passed,
    service.counters.count (.evaluations .batch passed) = service.counters.count (.batches passed)
  loads : service.counters.count (.ruleSetsLoaded true) + service.counters.count (.ruleSetsLoaded false) =
    calls.countP Call.loading

theorem length_entries_noted (service : Service) (mode : Mode) (status : Status) (payload : Json)
    (now : Instant) :
    (service.noted mode status payload now).history.entries.length + service.history.overflow =
      service.history.entries.length + 1 := by
  simp only [noted, History.append, List.length_drop, List.length_append, List.length_singleton,
    History.overflow]
  omega

namespace Accounts

variable {service : Service} {calls : List Call}

/-- A call that neither validates nor loads leaves the accounts alone. -/
theorem unrelated (accounts : Accounts service calls) {after : Service} {call : Call}
    (counters : after.counters = service.counters) (history : after.history = service.history)
    (validates : call.validated = false) (loads : call.loading = false) :
    Accounts after (calls ++ [call]) := by
  constructor
  case validations => simpa [counters, validates] using accounts.validations
  case retained => simpa [counters, history] using accounts.retained
  case batches => simpa [counters] using accounts.batches
  case loads => simpa [counters, loads] using accounts.loads

theorem loaded (accounts : Accounts service calls) {after : Service} {call : Call} (succeeded : Bool)
    (counters : after.counters = service.counters.add (.ruleSetsLoaded succeeded) 1)
    (history : after.history = service.history) (validates : call.validated = false)
    (loads : call.loading = true) : Accounts after (calls ++ [call]) := by
  have past := accounts.loads
  constructor
  case validations =>
    simpa [counters, Counters.total_add, Counter.name, validates] using accounts.validations
  case retained =>
    simpa [counters, history, Counters.total_add, Counters.count_add, Counter.name] using accounts.retained
  case batches => simpa [counters, Counters.count_add] using accounts.batches
  case loads =>
    cases succeeded with
    | true =>
      simp [counters, Counters.count_add, loads]
      omega
    | false =>
      simp [counters, Counters.count_add, loads]
      omega

/-- A validation is counted once, a batch also as a batch, and the new entry of the history is kept or makes up
for one that is dropped. -/
theorem validated (accounts : Accounts service calls) {after : Service} {call : Call} (mode : Mode)
    (passed : Bool)
    (counters : after.counters = (service.counters.validated mode passed).add .evictions
      service.history.overflow)
    (history : after.history.entries.length + service.history.overflow = service.history.entries.length + 1)
    (validates : call.validated = true) (loads : call.loading = false) : Accounts after (calls ++ [call]) := by
  -- An entry that is dropped for the new one is counted as an eviction, so entries and evictions together grow
  -- by one, however many are dropped.
  have past := accounts.retained
  constructor
  case validations =>
    cases mode <;>
      simpa [counters, Counters.validated, Counters.total_add, Counter.name, validates] using
        accounts.validations
  case retained =>
    cases mode with
    | single =>
      simp [counters, Counters.validated, Counters.total_add, Counters.count_add, Counter.name]
      omega
    | batch =>
      simp [counters, Counters.validated, Counters.total_add, Counters.count_add, Counter.name]
      omega
  case batches =>
    intro other
    have before := accounts.batches other
    cases mode <;> simpa [counters, Counters.validated, Counters.count_add] using before
  case loads =>
    cases mode <;>
      simpa [counters, Counters.validated, Counters.count_add, loads] using accounts.loads

/-- Whatever an operation comes to, the accounts go on to hold with its call. -/
theorem perform (accounts : Accounts service calls) (operation : Operation) (now : Instant) :
    Accounts (service.perform operation now).2 (calls ++ [service.call operation now]) := by
  cases operation with
  | loadRules payload =>
    rw [call, Service.perform, loadRules]
    cases RuleSet.accept payload now >>= (service.rules.save · now) with
    | error error => exact accounts.loaded false rfl rfl rfl rfl
    | ok loaded => exact accounts.loaded true rfl rfl rfl rfl
  | validate record options =>
    rw [call, Service.perform]
    cases outcome : evaluate service.rules.activeRules record options now with
    | error error =>
      rw [service.validate_of_error outcome]
      exact accounts.unrelated rfl rfl rfl rfl
    | ok evaluation =>
      rw [service.validate_of_ok outcome]
      exact accounts.validated .single _ rfl (length_entries_noted ..) rfl rfl
  | validateBatch records options clock =>
    rw [call, Service.perform]
    cases outcome : evaluateBatch service.rules.activeRules records options clock now with
    | error error =>
      rw [service.validateBatch_of_error outcome]
      exact accounts.unrelated rfl rfl rfl rfl
    | ok evaluated =>
      rw [service.validateBatch_of_ok outcome]
      exact accounts.validated .batch _ rfl (length_entries_noted ..) rfl rfl
  | updateRule id payload =>
    rw [call, Service.perform, updateRule]
    cases RulePatch.accept payload >>= (service.rules.update id · now) with
    | error error => exact accounts.unrelated rfl rfl rfl rfl
    | ok updated => exact accounts.unrelated rfl rfl rfl rfl
  | deleteRule id =>
    rw [call, Service.perform, deleteRule]
    cases service.rules.delete id now with
    | error error => exact accounts.unrelated rfl rfl rfl rfl
    | ok deleted => exact accounts.unrelated rfl rfl rfl rfl
  | loadApprovalRules payload =>
    rw [call, Service.perform, loadApprovalRules]
    cases ApprovalRules.accept payload >>= (·.toRuleSet now) >>= (service.approvalRules.save · now) with
    | error error => exact accounts.unrelated rfl rfl rfl rfl
    | ok loaded => exact accounts.unrelated rfl rfl rfl rfl
  | getRules => exact accounts.unrelated rfl rfl rfl rfl
  | getRule id => exact accounts.unrelated rfl rfl rfl rfl
  | history page limit status => exact accounts.unrelated rfl rfl rfl rfl
  | ruleStatistics => exact accounts.unrelated rfl rfl rfl rfl
  | validationStatistics => exact accounts.unrelated rfl rfl rfl rfl
  | process request => exact accounts.unrelated rfl rfl rfl rfl

theorem afterAll (accounts : Accounts service calls) (operations : List (Operation × Instant)) :
    Accounts (service.afterAll operations) (calls ++ service.calls operations) := by
  induction operations generalizing service calls with
  | nil => simpa [Service.afterAll, Service.calls] using accounts
  | cons step rest ih =>
    -- The accounts are kept of all calls so far, so the calls of the rest stand behind the new one.
    obtain ⟨operation, now⟩ := step
    have later := ih (accounts.perform operation now)
    rwa [List.append_assoc, List.singleton_append] at later

end Accounts

theorem accounts_new (capacity : Nat) (ids : Nat → String) : Accounts (new capacity ids) [] where
  validations := rfl
  retained := rfl
  batches := fun _ => rfl
  loads := rfl

end Service

def Json.member? (value : Json) (key : String) : Option Json :=
  value.fields?.bind (fun fields => Fields.get? fields key)

namespace History

def countOf (status : Status) (entries : List HistoryEntry) : Nat :=
  entries.countP (fun entry => entry.status == status)

theorem countOf_passed_add_failed (entries : List HistoryEntry) :
    countOf .passed entries + countOf .failed entries = entries.length := by
  induction entries with
  | nil => rfl
  | cons entry rest ih =>
    cases status : entry.status with
    | passed =>
      simp [countOf, status] at ih ⊢
      omega
    | failed =>
      simp [countOf, status] at ih ⊢
      omega

/-- What statistics tell of entries: their number, and how many of them passed and failed. -/
structure Statistics.Tell (statistics : Statistics) (entries : List HistoryEntry) : Prop where
  total : statistics.toJson.member? "totalValidations" = some (.ofNat entries.length)
  passed : statistics.toJson.member? "passedValidations" = some (.ofNat (countOf .passed entries))
  failed : statistics.toJson.member? "failedValidations" = some (.ofNat (countOf .failed entries))
  sum : countOf .passed entries + countOf .failed entries = entries.length

theorem statistics_tell (history : History) : history.statistics.Tell history.entries := by
  have sum := countOf_passed_add_failed history.entries
  have failed : history.entries.length - countOf .passed history.entries =
      countOf .failed history.entries := by omega
  constructor
  case total => rfl
  case passed => rfl
  case failed => exact congrArg (some ∘ Json.ofNat) failed
  case sum => exact sum

end History

namespace Service

/-- After any operations on a new service, the counters account for the calls and for the history: as many
evaluations are counted as validations gave an outcome and as entries were kept or dropped, every batch is
counted as an evaluation and as a batch, every load of rules is counted as a success or a failure, and the
statistics tell of exactly the entries that are kept. -/
theorem counters_account_for_calls (capacity : Nat) (ids : Nat → String)
    (operations : List (Operation × Instant)) :
    Accounts ((new capacity ids).afterAll operations) ((new capacity ids).calls operations) ∧
      ((new capacity ids).afterAll operations).history.statistics.Tell
        ((new capacity ids).afterAll operations).history.entries :=
  ⟨(accounts_new capacity ids).afterAll operations, History.statistics_tell _⟩

end Service

end Verdict
