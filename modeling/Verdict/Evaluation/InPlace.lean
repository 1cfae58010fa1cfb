import Verdict.Evaluation.Effect
import Verdict.Record.Assignment
/-!
Actions on a record that they change in place. Nothing is taken back: whatever an action wrote before it gave up
is in the record that the next action is given.
-/

namespace Verdict

open Time (Instant)

namespace Action

/-- Calculates in place: whether it came to the end, and the record that it leaves. -/
def calculateInPlace (action : Action) (record : Record) (now : Instant) : Bool × Record :=
  match action.text? "target" with
  | none => (false, record)
  | some target =>
    if target.isEmpty then (false, record)
    else
      match action.outcome? record with
      | none => (false, record)
      | some value =>
        let written := record.assign target (.ofCalculated (action.rounded value))
        if written.1 then (true, written.2.insert "calculatedAt" (.string now.stamp)) else (false, written.2)

/-- Carries an action out in place: whether it took effect, and the record that it leaves. -/
def execute (action : Action) (record : Record) (now : Instant) : Bool × Record :=
  match action.kind with
  | .approve => (true, action.approve record now)
  | .reject => (true, action.reject record now)
  | .flag => (true, action.flag record now)
  | .calculate => action.calculateInPlace record now
  | .notify => (true, record)
  | .modify => (true, action.modify record)
  | .unknown => (false, record)

end Action

def Effect.next (rule : Rule) (now : Instant) (effect : Effect) (action : Action) : Effect :=
  let outcome := action.execute effect.record now
  ⟨outcome.2, if outcome.1 then effect.applied + 1 else effect.applied,
    effect.notifications ++ action.notifications rule effect.record now⟩

def Rule.run (rule : Rule) (record : Record) (now : Instant) : Effect :=
  rule.actions.foldl (Effect.next rule now) ⟨record, 0, []⟩

end Verdict
