import Verdict.Expression.Evaluation
/-!
What the value of an expression depends on: the values of the identifiers that occur in it. The derived field
may therefore be there for every expression, also for those that do not mention it, and a chain of operands
holds as its operands do by themselves.
-/

namespace Verdict

open Time (Instant)

namespace Expr

variable {scope other : Scope}

mutual

/-- Where the identifiers of an expression have the same values, the expression has the same value. -/
theorem value_congr : (expression : Expr) →
    (∀ name, expression.mentions name = true → scope.lookup name = other.lookup name) →
      expression.value scope = expression.value other
  | .literal _, _ => by rw [value, value]
  | .identifier name, agree => by
    rw [value, value]
    exact agree name (by rw [mentions, beq_self_eq_true])
  | .compare _ left right, agree => by
    have leftSame := value_congr left fun name there => agree name (by rw [mentions, there, Bool.true_or])
    have rightSame := value_congr right fun name there => agree name (by rw [mentions, there, Bool.or_true])
    rw [value, value, leftSame, rightSame]
  | .all operands, agree => by
    rw [value, value, allHold_congr operands agree]
  | .any operands, agree => by
    rw [value, value, anyHolds_congr operands agree]

theorem allHold_congr : (operands : List Expr) →
    (∀ name, anyMentions name operands = true → scope.lookup name = other.lookup name) →
      allHold scope operands = allHold other operands
  | [], _ => by rw [allHold, allHold]
  | operand :: rest, agree => by
    have same := value_congr operand fun name there => agree name (by rw [anyMentions, there, Bool.true_or])
    have restSame := allHold_congr rest fun name there => agree name (by rw [anyMentions, there, Bool.or_true])
    rw [allHold, allHold, same, restSame]

theorem anyHolds_congr : (operands : List Expr) →
    (∀ name, anyMentions name operands = true → scope.lookup name = other.lookup name) →
      anyHolds scope operands = anyHolds other operands
  | [], _ => by rw [anyHolds, anyHolds]
  | operand :: rest, agree => by
    have same := value_congr operand fun name there => agree name (by rw [anyMentions, there, Bool.true_or])
    have restSame := anyHolds_congr rest fun name there => agree name (by rw [anyMentions, there, Bool.or_true])
    rw [anyHolds, anyHolds, same, restSame]

end

end Expr

/-- Every other identifier stands for a field of the record. -/
theorem Scope.lookup_of_ne {scope : Scope} {name : String} (other : name ≠ deliveryDays) :
    scope.lookup name = scope.record.get? name := by
  rw [lookup, beq_eq_false_iff_ne.2 other]

namespace Expr

variable (expression : Expr) (record : Record) (now : Instant)

/-- An expression that does not mention the derived field has the value it would have if the field were
there. -/
theorem value_scope :
    expression.value (expression.scope record now) = expression.value ⟨record, record.derivedDeliveryDays now⟩ := by
  apply value_congr
  intro name mentioned
  by_cases derived : name = deliveryDays
  · subst derived
    rw [scope, if_pos mentioned]
  · rw [Scope.lookup_of_ne derived, Scope.lookup_of_ne derived]
    rfl

theorem holds_eq :
    expression.holds record now = isTruthy (expression.value ⟨record, record.derivedDeliveryDays now⟩) := by
  rw [holds, value_scope]

theorem allHold_eq (operands : List Expr) :
    allHold ⟨record, record.derivedDeliveryDays now⟩ operands = operands.all (·.holds record now) := by
  induction operands with
  | nil => rfl
  | cons operand rest ih => rw [allHold, List.all_cons, holds_eq, ih]

theorem anyHolds_eq (operands : List Expr) :
    anyHolds ⟨record, record.derivedDeliveryDays now⟩ operands = operands.any (·.holds record now) := by
  induction operands with
  | nil => rfl
  | cons operand rest ih => rw [anyHolds, List.any_cons, holds_eq, ih]

/-- A chain of conjuncts holds exactly if each of them does by itself. -/
theorem holds_all (operands : List Expr) :
    (all operands).holds record now = operands.all (·.holds record now) := by
  rw [holds_eq, value, allHold_eq]
  rfl

/-- A chain of alternatives holds exactly if one of them does by itself. -/
theorem holds_any (operands : List Expr) :
    (any operands).holds record now = operands.any (·.holds record now) := by
  rw [holds_eq, value, anyHolds_eq]
  rfl

end Expr

end Verdict
