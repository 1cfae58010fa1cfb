import Verdict.Service.History
/-!
Counters of what a service has done. A counter has a name and labels; counters that never counted are not
listed.
-/

namespace Verdict

inductive Counter where
  | ruleSetsLoaded (succeeded : Bool)
  | evaluations (mode : Mode) (passed : Bool)
  | batches (passed : Bool)
  | evictions
  | requests (method path : String) (status : Nat)
deriving DecidableEq, Repr

namespace Counter

def name : Counter → String
  | ruleSetsLoaded _ => "rule_sets_loaded_total"
  | evaluations _ _ => "rule_evaluations_total"
  | batches _ => "batch_validations_total"
  | evictions => "validation_history_evictions_total"
  | requests _ _ _ => "http_requests_total"

def labels : Counter → List (String × String)
  | ruleSetsLoaded succeeded => [("status", if succeeded then "success" else "failure")]
  | evaluations mode passed => [("mode", mode.name), ("passed", if passed then "true" else "false")]
  | batches passed => [("passed", if passed then "true" else "false")]
  | evictions => []
  | requests method path status => [("method", method), ("path", path), ("status", toString status)]

def escaped (character : Char) : List Char :=
  if character = '\\' then ['\\', '\\']
  else if character = '\x22' then ['\\', '\x22']
  else if character = '\n' then ['\\', 'n']
  else [character]

def labelText (label : String × String) : String :=
  label.1 ++ "=" ++ String.ofList ('\x22' :: (label.2.toList.flatMap escaped ++ ['\x22']))

def text (counter : Counter) : String :=
  counter.name ++
    match counter.labels with
    | [] => ""
    | labels => "\x7b" ++ String.intercalate "," (labels.map labelText) ++ "\x7d"

end Counter

abbrev Counters := List (Counter × Nat)

namespace Counters

def count : Counters → Counter → Nat
  | [], _ => 0
  | (counter, amount) :: rest, wanted => if counter = wanted then amount else count rest wanted

/-- Adds to a counter. Nothing is noted for an amount of zero. -/
def add : Counters → Counter → (amount : Nat) → Counters
  | [], counter, amount => if amount = 0 then [] else [(counter, amount)]
  | (first, old) :: rest, counter, amount =>
    if first = counter then (first, old + amount) :: rest else (first, old) :: add rest counter amount

/-- The counts as lines in ascending order. -/
def lines (counters : Counters) : List String :=
  (counters.map (fun entry => entry.1.text ++ " " ++ toString entry.2)).mergeSort
    (fun left right => decide (left ≤ right))

@[simp] theorem count_add_self (counters : Counters) (counter : Counter) (amount : Nat) :
    (add counters counter amount).count counter = counters.count counter + amount := by
  induction counters with
  | nil =>
    by_cases zero : amount = 0 <;> simp [add, count, zero]
  | cons entry rest ih =>
    obtain ⟨first, old⟩ := entry
    by_cases same : first = counter <;> simp [add, count, same, ih]

theorem count_add_of_ne (counters : Counters) {counter other : Counter} (amount : Nat)
    (different : counter ≠ other) :
    (add counters counter amount).count other = counters.count other := by
  induction counters with
  | nil =>
    by_cases zero : amount = 0 <;> simp [add, count, zero, different]
  | cons entry rest ih =>
    obtain ⟨first, old⟩ := entry
    by_cases same : first = counter
    · subst same
      simp [add, count, different]
    · by_cases wanted : first = other
      · subst wanted
        simp [add, count, same]
      · simp [add, count, same, wanted, ih]

end Counters

end Verdict
