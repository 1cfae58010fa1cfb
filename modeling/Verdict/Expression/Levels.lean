import Verdict.Expression.Evaluation
/-!
The value of an expression by calls that nest no deeper than a given number of levels. The call for a tree makes one
call for each of its parts, one level further in; the operands of a chain are called one after the other, all at the
same level.
-/

namespace Verdict.Expr

mutual

/-- The value of an expression, or nothing when the calls would nest deeper than the levels that are left. -/
def valueWithin (scope : Scope) : (levels : Nat) → Expr → Option (Option Json)
  | 0, _ => none
  | _ + 1, .literal value => some (some value)
  | _ + 1, .identifier name => some (scope.lookup name)
  | levels + 1, .compare comparator left right => do
    let first ← valueWithin scope levels left
    let second ← valueWithin scope levels right
    some (some (.bool
      (match first, second with
        | some first, some second => first.satisfies comparator second
        | _, _ => false)))
  | levels + 1, .all operands => do
    let holds ← allHoldWithin scope levels operands
    some (some (.bool holds))
  | levels + 1, .any operands => do
    let holds ← anyHoldsWithin scope levels operands
    some (some (.bool holds))

/-- Whether every operand counts as true; the operands behind the first that does not are not called. -/
def allHoldWithin (scope : Scope) (levels : Nat) : List Expr → Option Bool
  | [] => some true
  | operand :: rest => do
    let value ← valueWithin scope levels operand
    if isTruthy value then allHoldWithin scope levels rest else some false

def anyHoldsWithin (scope : Scope) (levels : Nat) : List Expr → Option Bool
  | [] => some false
  | operand :: rest => do
    let value ← valueWithin scope levels operand
    if isTruthy value then some true else anyHoldsWithin scope levels rest

end

def holdsWithin (levels : Nat) (expression : Expr) (record : Record) (now : Time.Instant) : Option Bool :=
  (expression.valueWithin (expression.scope record now) levels).map isTruthy

end Verdict.Expr
