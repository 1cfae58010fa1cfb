import Verdict.Proofs.Evaluation.Calculation
import Verdict.Proofs.Record.Writing
/-!
Why an action has no effect. A calculation needs a target, a formula that it names, operands or line items that
are all numbers, divisors other than zero, an outcome that is finite unless it is a total of line items, and a
place that can be written; it has no effect exactly if one of these is wanting.
-/

namespace Verdict

open Time (Instant)

theorem mapM_eq_none_iff {α β : Type} {step : α → Option β} {items : List α} :
    items.mapM step = none ↔ ∃ item ∈ items, step item = none := by
  induction items with
  | nil => simp
  | cons first rest ih =>
    cases found : step first with
    | none => simp [found]
    | some value => cases later : rest.mapM step <;> simp_all

/-- What is wrong with an operand of a formula. -/
inductive OperandFault (record : Record) (path : Json) : Prop
  | notText (other : ∀ text, path ≠ .string text)
  | missing {text : String} (named : path = .string text) (absent : record.resolve text = none)
  | notNumber {text : String} (named : path = .string text) {found : Json}
    (present : record.resolve text = some found) (unread : found.asFloat? = none)

/-- What is wrong with a line item. -/
inductive ItemFault (quantityKey priceKey : String) (item : Json) : Prop
  | notObject (other : ∀ fields, item ≠ .object fields)
  | noQuantity {fields : Fields} (object : item = .object fields)
    (unread : (fields.get? quantityKey).bind Json.asFloat? = none)
  | noPrice {fields : Fields} (object : item = .object fields)
    (unread : (fields.get? priceKey).bind Json.asFloat? = none)

theorem operand_eq_none_iff {record : Record} {path : Json} :
    (path.string?.bind (fun text => Record.resolve record text)).bind Json.asFloat? = none ↔
      OperandFault record path := by
  constructor
  · intro unread
    cases path with
    | string text =>
      cases found : record.resolve text with
      | none => exact .missing rfl found
      | some value => exact .notNumber rfl found (by simpa [Json.string?, found] using unread)
    | null | bool | number | array | object => exact .notText (fun text => nofun)
  · intro fault
    cases fault with
    | notText other =>
      cases path with
      | string text => exact absurd rfl (other text)
      | null | bool | number | array | object => rfl
    | missing named absent => simp [named, Json.string?, absent]
    | notNumber named present unread => simp [named, Json.string?, present, unread]

theorem lineTotal?_eq_none_iff {quantityKey priceKey : String} {item : Json} :
    Action.lineTotal? quantityKey priceKey item = none ↔ ItemFault quantityKey priceKey item := by
  constructor
  · intro unread
    cases item with
    | object fields =>
      rw [Action.lineTotal?] at unread
      cases quantity : (Fields.get? fields quantityKey).bind Json.asFloat? with
      | none => exact .noQuantity rfl quantity
      | some _ =>
        cases price : (Fields.get? fields priceKey).bind Json.asFloat? with
        | none => exact .noPrice rfl price
        | some _ => simp [quantity, price] at unread
    | null | bool | number | string | array => exact .notObject (fun fields => nofun)
  · intro fault
    cases fault with
    | notObject other =>
      cases item with
      | object fields => exact absurd rfl (other fields)
      | null | bool | number | string | array => rfl
    | noQuantity object unread => rw [object, Action.lineTotal?, unread]
    | noPrice object unread =>
      rw [object, Action.lineTotal?, unread]
      split <;> simp_all

namespace Action

variable (action : Action) (record : Record) (now : Instant)

/-- The paths of the operands of an action, none if they are not listed. -/
def operandPaths : List Json :=
  ((action.parameters.get? "fields").bind Json.items?).getD []

/-- The line items that an action adds up, if its record has a list of them. -/
def lineItems? : Option (List Json) :=
  (record.resolve ((action.text? "items_field").getD "items")).bind Json.items?

/-- The key of the quantity in a line item. -/
def quantityKey : String := (action.text? "quantity_field").getD "quantity"

/-- The key of the price in a line item. -/
def priceKey : String := (action.text? "price_field").getD "unitPrice"

/-- Why the formula of an action has no outcome. -/
inductive OutcomeFault : Prop
  | unknownFormula (unnamed : action.formula? = none)
  | noOperands {formula : Formula} (named : action.formula? = some formula) (folds : formula ≠ .lineItems)
    (unlisted : action.operandPaths = [])
  | badOperand {formula : Formula} (named : action.formula? = some formula) (folds : formula ≠ .lineItems)
    {path : Json} (listed : path ∈ action.operandPaths) (fault : OperandFault record path)
  | zeroDivisor (named : action.formula? = some .ratio) {first : Float} {rest : List Float}
    (read : action.operands? record = some (first :: rest)) {divisor : Float} (listed : divisor ∈ rest)
    (zero : (divisor == 0) = true)
  | notFinite {formula : Formula} (named : action.formula? = some formula) (folds : formula ≠ .lineItems)
    {value : Float} (outcome : action.raw? record = some value) (infinite : value.isFinite = false)
  | noItems (named : action.formula? = some .lineItems) (missing : action.lineItems? record = none)
  | badItem (named : action.formula? = some .lineItems) {items : List Json}
    (found : action.lineItems? record = some items) {item : Json} (listed : item ∈ items)
    (fault : ItemFault action.quantityKey action.priceKey item)

/-- Why a calculation cannot be carried out. -/
inductive CalculationFault : Prop
  | untargeted (missing : action.text? "target" = none ∨ action.text? "target" = some "")
  | noOutcome (fault : action.OutcomeFault record)
  | blocked {target : String} (named : action.text? "target" = some target)
    (closed : ¬record.Writable target)

/-- An action that is skipped: one of unknown kind, or a calculation that cannot be carried out. -/
inductive Skipped : Prop
  | unknown (kind : action.kind = .unknown)
  | calculation (kind : action.kind = .calculate) (fault : action.CalculationFault record)

variable {action record}

theorem operands?_eq_none_iff :
    action.operands? record = none ↔
      (action.parameters.get? "fields").bind Json.items? = none ∨
        ∃ path ∈ action.operandPaths, OperandFault record path := by
  rw [operands?, operandPaths]
  cases action.parameters.get? "fields" with
  | none => simp
  | some paths =>
    cases paths with
    | array paths =>
      simp only [Option.bind_some, Json.items?, Option.getD_some, mapM_eq_none_iff, operand_eq_none_iff,
        reduceCtorEq, false_or]
    | null | bool | number | string | object => simp [Json.items?]

theorem operandPaths_eq_nil_of_operands? (read : action.operands? record = some []) :
    action.operandPaths = [] := by
  rw [operands?] at read
  rw [operandPaths]
  split at read
  next paths found =>
    rw [found]
    cases paths with
    | nil => rfl
    | cons path rest =>
      rw [List.mapM_cons] at read
      obtain ⟨_, _, later⟩ := Option.bind_eq_some_iff.1 read
      obtain ⟨_, _, filled⟩ := Option.bind_eq_some_iff.1 later
      cases filled
  next => cases read

theorem operands?_of_operandPaths_eq_nil (record : Record) (unlisted : action.operandPaths = []) :
    action.operands? record = none ∨ action.operands? record = some [] := by
  rw [operandPaths] at unlisted
  rw [operands?]
  split
  next paths found =>
    rw [found] at unlisted
    obtain rfl : paths = [] := unlisted
    exact .inr rfl
  next => exact .inl rfl

theorem lineItemsTotal?_eq_none_iff :
    action.lineItemsTotal? record = none ↔
      action.lineItems? record = none ∨
        ∃ items, action.lineItems? record = some items ∧
          ∃ item ∈ items, ItemFault action.quantityKey action.priceKey item := by
  rw [lineItemsTotal?, lineItems?]
  cases record.resolve ((action.text? "items_field").getD "items") with
  | none => simp
  | some found =>
    cases found with
    | array items =>
      simp [Json.items?, mapM_eq_none_iff, lineTotal?_eq_none_iff, quantityKey, priceKey]
    | null | bool | number | string | object => simp [Json.items?]

theorem outcome?_of_folds (record : Record) {formula : Formula} (named : action.formula? = some formula)
    (folds : formula ≠ .lineItems) :
    action.outcome? record = (action.operands? record).bind formula.apply ∧
      action.raw? record = (action.operands? record).bind formula.fold? := by
  rw [formula?] at named
  rw [outcome?, raw?, formula?, named]
  cases formula with
  | lineItems => exact absurd rfl folds
  | sum | product | difference | ratio => exact ⟨rfl, rfl⟩

theorem outcome?_of_lineItems (named : action.formula? = some .lineItems) :
    action.outcome? record = action.lineItemsTotal? record := by
  rw [formula?] at named
  rw [outcome?, named]
  rfl

theorem fold?_eq_none {formula : Formula} (folds : formula ≠ .lineItems) {first : Float} {rest : List Float}
    (undefined : formula.fold? (first :: rest) = none) :
    formula = .ratio ∧ ∃ divisor ∈ rest, (divisor == 0) = true := by
  cases formula with
  | lineItems => exact absurd rfl folds
  | ratio => simpa [Formula.fold?] using undefined
  | sum | product | difference => cases undefined

/-- A formula over operands has no outcome because of its operands, a divisor, or what comes out. -/
theorem outcomeFault_of_folds {formula : Formula} (named : action.formula? = some formula)
    (folds : formula ≠ .lineItems) (none : action.outcome? record = none) : action.OutcomeFault record := by
  obtain ⟨outcome, raw⟩ := outcome?_of_folds record named folds
  rw [outcome] at none
  cases read : action.operands? record with
  | none =>
    obtain unlisted | ⟨path, listed, fault⟩ := operands?_eq_none_iff.1 read
    · exact .noOperands named folds (by rw [operandPaths, unlisted]; rfl)
    · exact .badOperand named folds listed fault
  | some operands =>
    rw [read, Option.bind_some] at none raw
    rw [Formula.apply_eq_filter] at none
    cases folded : formula.fold? operands with
    | none =>
      cases operands with
      | nil => exact .noOperands named folds (operandPaths_eq_nil_of_operands? read)
      | cons first rest =>
        obtain ⟨rfl, divisor, listed, zero⟩ := fold?_eq_none folds folded
        exact .zeroDivisor named read listed zero
    | some value =>
      rw [folded] at none raw
      exact .notFinite named folds raw (by simpa [Option.filter] using none)

theorem outcome?_eq_none_of_fault (fault : action.OutcomeFault record) : action.outcome? record = none := by
  cases fault with
  | unknownFormula unnamed =>
    rw [formula?] at unnamed
    rw [outcome?, unnamed]
    rfl
  | noOperands named folds unlisted =>
    rw [(outcome?_of_folds record named folds).1]
    obtain read | read := operands?_of_operandPaths_eq_nil record unlisted <;>
      · rw [read]
        rfl
  | badOperand named folds listed fault =>
    rw [(outcome?_of_folds record named folds).1, operands?_eq_none_iff.2 (.inr ⟨_, listed, fault⟩)]
    rfl
  | zeroDivisor named read listed zero =>
    have folds : Formula.ratio ≠ .lineItems := by decide
    rw [(outcome?_of_folds record named folds).1, read, Option.bind_some, Formula.apply_eq_filter, Formula.fold?]
    rw [if_pos (List.any_eq_true.2 ⟨_, listed, zero⟩)]
    rfl
  | notFinite named folds outcome infinite =>
    obtain ⟨applied, raw⟩ := outcome?_of_folds record named folds
    rw [raw] at outcome
    obtain ⟨operands, read, folded⟩ := Option.bind_eq_some_iff.1 outcome
    rw [applied, read, Option.bind_some, Formula.apply_eq_filter, folded, Option.filter_some, infinite]
    rfl
  | noItems named missing =>
    rw [outcome?_of_lineItems named, lineItemsTotal?_eq_none_iff]
    exact .inl missing
  | badItem named found listed fault =>
    rw [outcome?_of_lineItems named, lineItemsTotal?_eq_none_iff]
    exact .inr ⟨_, found, _, listed, fault⟩

theorem outcome?_eq_none_iff : action.outcome? record = none ↔ action.OutcomeFault record := by
  refine ⟨fun none => ?_, outcome?_eq_none_of_fault⟩
  cases named : action.formula? with
  | none => exact .unknownFormula named
  | some formula =>
    by_cases folds : formula = .lineItems
    · rw [folds] at named
      rw [outcome?_of_lineItems named] at none
      obtain missing | ⟨items, found, item, listed, fault⟩ := lineItemsTotal?_eq_none_iff.1 none
      · exact .noItems named missing
      · exact .badItem named found listed fault
    · exact outcomeFault_of_folds named folds none

theorem write?_eq_none_iff (path : String) (value : Json) :
    record.write? path value = none ↔ ¬record.Writable path := by
  rw [Record.write?_eq_assign, ← Record.assign_done_iff record path value]
  cases (record.assign path value).1 <;> simp

theorem calculate?_eq_none_iff (now : Instant) :
    action.calculate? record now = none ↔ action.CalculationFault record := by
  rw [calculate?]
  cases named : action.text? "target" with
  | none => exact ⟨fun _ => .untargeted (.inl named), fun _ => rfl⟩
  | some target =>
    by_cases empty : target.isEmpty = true
    · obtain rfl := String.isEmpty_iff.1 empty
      exact ⟨fun _ => .untargeted (.inr named), fun _ => rfl⟩
    · simp only [if_neg empty]
      constructor
      · intro none
        cases outcome : action.outcome? record with
        | none => exact .noOutcome (outcome?_eq_none_iff.1 outcome)
        | some value =>
          rw [outcome, Option.bind_some, Option.map_eq_none_iff] at none
          exact .blocked named ((write?_eq_none_iff target _).1 none)
      · intro fault
        cases fault with
        | untargeted missing =>
          obtain missing | blank := missing
          · cases named.symm.trans missing
          · obtain rfl := Option.some.inj (named.symm.trans blank)
            exact absurd rfl empty
        | noOutcome fault => rw [outcome?_eq_none_iff.2 fault, Option.bind_none]
        | blocked named' closed =>
          obtain rfl := Option.some.inj (named.symm.trans named')
          cases action.outcome? record with
          | none => rfl
          | some value => rw [Option.bind_some, (write?_eq_none_iff target _).2 closed, Option.map_none]

/-- An action has no effect exactly if it is skipped, whatever the time. -/
theorem perform?_eq_none_iff (now : Instant) : action.perform? record now = none ↔ action.Skipped record := by
  have calculation (kind : action.kind = .calculate) :
      action.Skipped record ↔ action.CalculationFault record := by
    constructor
    · intro skipped
      cases skipped with
      | unknown unknown => cases kind.symm.trans unknown
      | calculation _ fault => exact fault
    · exact .calculation kind
  rw [perform?]
  cases kind : action.kind with
  | calculate => rw [calculation kind, calculate?_eq_none_iff]
  | unknown => exact ⟨fun _ => .unknown kind, fun _ => rfl⟩
  | approve | reject | flag | notify | modify =>
    constructor
    · intro none
      cases none
    · intro skipped
      cases skipped with
      | unknown other | calculation other _ => cases kind.symm.trans other

instance (action : Action) (record : Record) : Decidable (action.Skipped record) :=
  decidable_of_iff ((action.perform? record ⟨0, 0⟩).isNone = true)
    (by rw [Option.isNone_iff_eq_none, perform?_eq_none_iff])

end Action

end Verdict
