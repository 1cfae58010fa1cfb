import Verdict.Evaluation.Batch
/-!
A batch whose records are taken up in any order, as by several workers at once. What a record comes to is put at
its place, and the outcome is read off from the places.
-/

namespace Verdict

open Time (Instant)

/-- Evaluates the records at the places of `order`, one after the other, and fills in what they come to. -/
def evaluateInOrder (rules : List CompiledRule) (records : List Record) (options : Options)
    (clock : Nat → Instant) : (order : List Nat) → (entries : List (Option BatchEntry)) →
      Except RuleError (List (Option BatchEntry))
  | [], entries => .ok entries
  | place :: rest, entries =>
    match records[place]? with
    | none => evaluateInOrder rules records options clock rest entries
    | some record => do
      let evaluation ← evaluate rules record options (clock place)
      evaluateInOrder rules records options clock rest
        (entries.set place (some ⟨place, record.nameAt place, evaluation.summary⟩))

def evaluateBatchInOrder (rules : List CompiledRule) (records : List Record) (options : Options)
    (clock : Nat → Instant) (finishedAt : Instant) (order : List Nat) : Except RuleError BatchOutcome :=
  if rules.isEmpty then .error .noActiveRules
  else
    (evaluateInOrder rules records options clock order (List.replicate records.length none)).map
      (fun entries => ⟨entries.filterMap id, finishedAt⟩)

end Verdict
