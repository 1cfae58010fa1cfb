import Verdict.Json.Comparison
import Verdict.Time.Reader
import Verdict.Record.Path
import Verdict.Expression.Basic
/-!
The value of an expression on a record at a time. An identifier names a field of the record, and an absent
field makes every comparison with it false. One identifier is derived from another field and the time: the
days left until the required delivery.
-/

namespace Verdict

open Expression (Comparator)
open Time (Instant)

def deliveryDays : String := "deliveryDays"

def requiredDeliveryDate : String := "requiredDeliveryDate"

/-- The whole days from now to a date, with every begun day counted: milliseconds over the milliseconds
of a day in binary64 arithmetic, rounded up. -/
def daysUntil (now date : Instant) : Int :=
  (Decimal.Binary.ofFloat (Float.ofInt (date.millisecondsSince now) / 86400000)).ceiling

/-- The derived field of a record: nothing when the record has no date, so that its own field counts, and
otherwise the days, which are absent when the date cannot be read. -/
def Record.derivedDeliveryDays (record : Record) (now : Instant) : Option (Option Json) :=
  match record.get? requiredDeliveryDate with
  | none => none
  | some .null => none
  | some value =>
    some ((value.string?.bind Time.readMoment).map (fun date => Json.ofInt (daysUntil now date)))

/-- What identifiers stand for: fields of a record, and the derived field if there is one. -/
structure Scope where
  record : Record
  derived : Option (Option Json)

def Scope.lookup (scope : Scope) (name : String) : Option Json :=
  match name == deliveryDays, scope.derived with
  | true, some value => value
  | _, _ => scope.record.get? name

namespace Json

/-- The order of two values: texts by their characters, all else as numbers. -/
def order? (left right : Json) : Option Ordering :=
  match left, right with
  | .string first, .string second => some (compare first second)
  | _, _ =>
    match left.asFloat?, right.asFloat? with
    | some first, some second =>
      if first < second then some .lt
      else if first == second then some .eq
      else if second < first then some .gt
      else none
    | _, _ => none

/-- Whether a comparison holds of two values. Values without an order satisfy no ordering comparison. -/
def satisfies (comparator : Comparator) (left right : Json) : Bool :=
  match comparator with
  | .equal => left.agrees right
  | .different => !left.agrees right
  | _ => (left.order? right).any comparator.holds

def isTruthy : Json → Bool
  | .null => false
  | .bool value => value
  | .number value => value.toFloat != 0
  | .string value => !value.isEmpty
  | .array _ => true
  | .object _ => true

end Json

/-- Absent values count as false. -/
def isTruthy (value : Option Json) : Bool :=
  value.any Json.isTruthy

namespace Expr

mutual

/-- The value of an expression; only identifiers can have none. -/
def value (scope : Scope) : Expr → Option Json
  | .literal value => some value
  | .identifier name => scope.lookup name
  | .compare comparator left right =>
    some (.bool
      (match left.value scope, right.value scope with
        | some first, some second => first.satisfies comparator second
        | _, _ => false))
  | .all operands => some (.bool (allHold scope operands))
  | .any operands => some (.bool (anyHolds scope operands))

def allHold (scope : Scope) : List Expr → Bool
  | [] => true
  | operand :: rest => isTruthy (operand.value scope) && allHold scope rest

def anyHolds (scope : Scope) : List Expr → Bool
  | [] => false
  | operand :: rest => isTruthy (operand.value scope) || anyHolds scope rest

end

/-- The scope of an expression: the derived field is there only for expressions that mention it. -/
def scope (expression : Expr) (record : Record) (now : Instant) : Scope :=
  ⟨record, if expression.mentions deliveryDays then record.derivedDeliveryDays now else none⟩

def holds (expression : Expr) (record : Record) (now : Instant) : Bool :=
  isTruthy (expression.value (expression.scope record now))

end Expr

end Verdict
