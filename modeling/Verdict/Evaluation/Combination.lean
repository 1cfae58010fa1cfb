import Verdict.Rule.Basic
/-!
The verdict of a list of conditions. Every verdict is joined to what the ones before it came to, by the
connective of the condition just before it; no connective binds tighter than the other.
-/

namespace Verdict

namespace Connective

def join : Connective → Bool → Bool → Bool
  | and, verdict, next => verdict && next
  | or, verdict, next => verdict || next

/-- Joins further verdicts to one, each by the next connective, as far as there are both. -/
def joinAll : (connectives : List Connective) → (verdict : Bool) → (verdicts : List Bool) → Bool
  | connective :: connectives, verdict, next :: verdicts =>
    joinAll connectives (connective.join verdict next) verdicts
  | _, verdict, _ => verdict

/-- The verdict of a list; an empty list fails. -/
def combine (connectives : List Connective) : (verdicts : List Bool) → Bool
  | [] => false
  | first :: rest => joinAll connectives first rest

end Connective

end Verdict
