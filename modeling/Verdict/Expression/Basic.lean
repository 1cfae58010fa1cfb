import Verdict.Expression.Token
import Verdict.Json.Basic
/-!
Expression trees. The operands of one chain of a connective stand in one list, so a tree grows in height
only with its parentheses.
-/

namespace Verdict

open Expression (Comparator)

inductive Expr where
  | literal (value : Json)
  | identifier (name : String)
  | compare (comparator : Comparator) (left right : Expr)
  | all (operands : List Expr)
  | any (operands : List Expr)
deriving Inhabited, Repr

namespace Expr

/-- The operands of one chain: a single operand makes no chain. -/
def group (chain : List Expr → Expr) (first : Expr) (others : List Expr) : Expr :=
  if others.isEmpty then first else chain (first :: others)

mutual

def mentions (name : String) : Expr → Bool
  | .literal _ => false
  | .identifier other => other == name
  | .compare _ left right => left.mentions name || right.mentions name
  | .all operands => anyMentions name operands
  | .any operands => anyMentions name operands

def anyMentions (name : String) : List Expr → Bool
  | [] => false
  | operand :: rest => operand.mentions name || anyMentions name rest

end

mutual

/-- The number of nodes on the longest way from the root to a leaf. -/
def height : Expr → Nat
  | .literal _ => 1
  | .identifier _ => 1
  | .compare _ left right => 1 + max left.height right.height
  | .all operands => 1 + greatestHeight operands
  | .any operands => 1 + greatestHeight operands

def greatestHeight : List Expr → Nat
  | [] => 0
  | operand :: rest => max operand.height (greatestHeight rest)

end

end Expr

end Verdict
