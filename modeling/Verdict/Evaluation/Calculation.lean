import Verdict.Json.Comparison
import Verdict.Record.Path
import Verdict.Rule.Basic
/-!
Calculations. A formula turns numbers of a record into one number, which is rounded on demand and written
at the target of the action; whatever cannot be calculated or written is left undone.
-/

namespace Verdict

open Time (Instant)

inductive Formula where
  | sum
  | product
  | difference
  | ratio
  | lineItems
deriving DecidableEq, Repr

namespace Formula

def named? : String → Option Formula
  | "sum" => some sum
  | "product" => some product
  | "difference" => some difference
  | "ratio" => some ratio
  | "line_items" => some lineItems
  | _ => none

/-- The outcome of a formula on its operands in their order, if it is finite. A ratio has no outcome when
one of its divisors is zero. -/
def apply (formula : Formula) : (operands : List Float) → Option Float
  | [] => none
  | first :: rest =>
    let outcome :=
      match formula with
      | product => some (rest.foldl (· * ·) first)
      | difference => some (rest.foldl (· - ·) first)
      | ratio => if rest.any (· == 0) then none else some (rest.foldl (· / ·) first)
      | sum => some (rest.foldl (· + ·) first)
      | lineItems => none
    outcome.filter Float.isFinite

end Formula

namespace Action

/-- The numbers at the paths of an action, if every path leads to a number. -/
def operands? (action : Action) (record : Record) : Option (List Float) :=
  match action.parameters.get? "fields" with
  | some (.array paths) =>
    paths.mapM (fun path =>
      (path.string?.bind (fun text => Record.resolve record text)).bind Json.asFloat?)
  | _ => none

def lineTotal? (quantityKey priceKey : String) : Json → Option Float
  | .object item =>
    match (Fields.get? item quantityKey).bind Json.asFloat?, (Fields.get? item priceKey).bind Json.asFloat? with
    | some quantity, some price => some (quantity * price)
    | _, _ => none
  | _ => none

def lineItemsTotal? (action : Action) (record : Record) : Option Float :=
  let itemsPath := (action.text? "items_field").getD "items"
  let quantityKey := (action.text? "quantity_field").getD "quantity"
  let priceKey := (action.text? "price_field").getD "unitPrice"
  match Record.resolve record itemsPath with
  | some (.array items) =>
    (items.mapM (lineTotal? quantityKey priceKey)).map (fun totals => totals.foldl (· + ·) 0)
  | _ => none

/-- The outcome of the formula of an action; without a name it is the sum. -/
def outcome? (action : Action) (record : Record) : Option Float :=
  (Formula.named? ((action.text? "formula").getD "sum")).bind (fun formula =>
    match formula with
    | .lineItems => action.lineItemsTotal? record
    | _ => (action.operands? record).bind formula.apply)

/-- Rounds to the number of decimals that an action asks for; more than 15 count as 15. -/
def rounded (action : Action) (value : Float) : Float :=
  match (action.parameters.get? "round").bind Json.nat? with
  | none => value
  | some decimals =>
    let scale := Float.ofNat (Nat.pow 10 (min decimals 15))
    Decimal.roundHalfAway (value * scale) / scale

end Action

/-- A calculated number as JSON: one without fraction that fits 63 bits as an integer. -/
def Json.ofCalculated (value : Float) : Json :=
  if Decimal.isWhole value && value.abs < 9223372036854775808 then
    .ofInt (Decimal.Binary.ofFloat value).truncate
  else .ofFloat value

/-- A record after a calculation: the outcome at the target, and the time under `calculatedAt`. Nothing
when there is no target, no outcome, or no way to the target. -/
def Action.calculate? (action : Action) (record : Record) (now : Instant) : Option Record :=
  match action.text? "target" with
  | none => none
  | some target =>
    if target.isEmpty then none
    else
      (action.outcome? record).bind (fun value =>
        (record.write? target (.ofCalculated (action.rounded value))).map
          (fun written => written.insert "calculatedAt" (.string now.stamp)))

end Verdict
