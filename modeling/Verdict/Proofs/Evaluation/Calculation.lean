import Verdict.Evaluation.Effect
import Verdict.Proofs.Json.Number
/-!
What a calculation writes. The formulas over operands let finite outcomes through only; the total of line items
and the step that rounds are not looked at again. So a calculation that is counted writes a number exactly if
the outcome is finite up to the step that rounds it, and null otherwise.
-/

namespace Verdict

open Time (Instant)

/-- A finite outcome is written as a number of its value, whether that is an integer or a binary64 number. -/
theorem Json.ofCalculated_eq_number {value : Float} (finite : value.isFinite = true) :
    ∃ number, Json.ofCalculated value = .number number ∧
      number.value = (Decimal.Binary.ofFloat value).value := by
  rw [ofCalculated]
  split
  · rename_i whole
    simp only [Bool.and_eq_true, decide_eq_true_eq, Decimal.isWhole] at whole
    obtain ⟨⟨-, whole⟩, below⟩ := whole
    have bounded := Decimal.natAbs_truncate_lt finite below
    have fits : -9223372036854775808 ≤ (Decimal.Binary.ofFloat value).truncate ∧
        (Decimal.Binary.ofFloat value).truncate < 18446744073709551616 := by omega
    refine ⟨.integer _ fits, ?_, (Decimal.Binary.value_eq_truncate whole).symm⟩
    rw [ofInt, Number.ofInt?, dif_pos fits]
    rfl
  · refine ⟨.float ⟨value, finite⟩, ?_, rfl⟩
    rw [ofFloat, Number.ofFloat?, Decimal.FiniteFloat.ofFloat?, dif_pos finite]
    rfl

theorem Json.ofCalculated_of_isFinite {value : Float} (finite : value.isFinite = true) :
    ∃ number, Json.ofCalculated value = .number number := by
  obtain ⟨number, written, -⟩ := ofCalculated_eq_number finite
  exact ⟨number, written⟩

theorem Json.ofCalculated_of_not_isFinite {value : Float} (infinite : value.isFinite = false) :
    Json.ofCalculated value = .null := by
  have inexact : Decimal.isWhole value = false := by rw [Decimal.isWhole, infinite, Bool.false_and]
  have unread : ¬value.isFinite = true := by rw [infinite]; decide
  rw [ofCalculated, inexact, Bool.false_and, if_neg (by decide), ofFloat, Number.ofFloat?,
    Decimal.FiniteFloat.ofFloat?, dif_neg unread]
  rfl

theorem Json.ofCalculated_eq_null_iff (value : Float) :
    Json.ofCalculated value = .null ↔ value.isFinite = false := by
  cases finite : value.isFinite with
  | false => exact ⟨fun _ => rfl, fun _ => ofCalculated_of_not_isFinite finite⟩
  | true =>
    obtain ⟨number, written⟩ := ofCalculated_of_isFinite finite
    rw [written]
    exact ⟨nofun, nofun⟩

theorem Json.exists_ofCalculated_eq_number_iff (value : Float) :
    (∃ number, Json.ofCalculated value = .number number) ↔ value.isFinite = true := by
  refine ⟨fun found => ?_, ofCalculated_of_isFinite⟩
  by_contra infinite
  obtain ⟨numeral, written⟩ := found
  rw [ofCalculated_of_not_isFinite (Bool.eq_false_iff.mpr infinite)] at written
  cases written

/-- The outcome of a formula on its operands, finite or not. -/
def Formula.fold? (formula : Formula) : (operands : List Float) → Option Float
  | [] => none
  | first :: rest =>
    match formula with
    | product => some (rest.foldl (· * ·) first)
    | difference => some (rest.foldl (· - ·) first)
    | ratio => if rest.any (· == 0) then none else some (rest.foldl (· / ·) first)
    | sum => some (rest.foldl (· + ·) first)
    | lineItems => none

theorem Formula.apply_eq_filter (formula : Formula) (operands : List Float) :
    formula.apply operands = (formula.fold? operands).filter Float.isFinite := by
  cases operands with
  | nil => rfl
  | cons first rest => rfl

namespace Action

/-- The formula that an action names; the sum without a name. -/
def formula? (action : Action) : Option Formula :=
  Formula.named? ((action.text? "formula").getD "sum")

/-- The outcome of the formula of an action, finite or not. -/
def raw? (action : Action) (record : Record) : Option Float :=
  action.formula?.bind (fun formula =>
    match formula with
    | .lineItems => action.lineItemsTotal? record
    | _ => (action.operands? record).bind formula.fold?)

theorem outcome?_eq_some_iff (action : Action) (record : Record) (value : Float) :
    action.outcome? record = some value ↔
      action.raw? record = some value ∧ (action.formula? = some .lineItems ∨ value.isFinite = true) := by
  rw [outcome?, raw?, formula?]
  cases named : Formula.named? ((action.text? "formula").getD "sum") with
  | none => simp
  | some formula =>
    cases formula with
    | lineItems => simp
    | sum | product | difference | ratio =>
      cases action.operands? record <;> simp [Formula.apply_eq_filter]

/-- The number that the last division of rounding is given, and the outcome itself where nothing is rounded. -/
def scaled (action : Action) (value : Float) : Float :=
  match (action.parameters.get? "round").bind Json.nat? with
  | none => value
  | some decimals => value * Float.ofNat (Nat.pow 10 (min decimals 15))

theorem isFinite_rounded (action : Action) (value : Float) :
    (action.rounded value).isFinite = (action.scaled value).isFinite := by
  rw [rounded, scaled]
  cases (action.parameters.get? "round").bind Json.nat? with
  | none => rfl
  | some decimals =>
    exact (Decimal.isFinite_div_tenPower _ (Nat.min_le_right ..)).trans (Decimal.isFinite_roundHalfAway _)

/-- A calculation that goes through: its formula has an outcome, which is finite unless it is a total of line
items, and the rounded outcome can be written at the target. -/
structure Calculates (action : Action) (record : Record) (target : String) (value : Float)
    (written : Record) : Prop where
  target_eq : action.text? "target" = some target
  target_ne : target ≠ ""
  raw_eq : action.raw? record = some value
  finite : action.formula? = some .lineItems ∨ value.isFinite = true
  written_eq : record.write? target (.ofCalculated (action.rounded value)) = some written

theorem calculate?_eq_some_iff (action : Action) (record : Record) (now : Instant) (changed : Record) :
    action.calculate? record now = some changed ↔
      ∃ target value written, action.Calculates record target value written ∧
        changed = written.insert "calculatedAt" (.string now.stamp) := by
  rw [calculate?]
  constructor
  · intro success
    split at success
    next => cases success
    next target named =>
      by_cases empty : target.isEmpty = true
      · rw [if_pos empty] at success
        cases success
      · rw [if_neg empty] at success
        obtain ⟨value, found, wrote⟩ := Option.bind_eq_some_iff.1 success
        obtain ⟨written, done, rfl⟩ := Option.map_eq_some_iff.1 wrote
        obtain ⟨raw, finite⟩ := (action.outcome?_eq_some_iff record value).1 found
        have nonempty : target ≠ "" := fun blank => empty (String.isEmpty_iff.2 blank)
        exact ⟨target, value, written, ⟨named, nonempty, raw, finite, done⟩, rfl⟩
  · rintro ⟨target, value, written, ⟨target_eq, target_ne, raw_eq, finite, written_eq⟩, rfl⟩
    have nonempty : ¬target.isEmpty = true := fun empty => target_ne (String.isEmpty_iff.1 empty)
    simp only [target_eq, if_neg nonempty, (action.outcome?_eq_some_iff record value).2 ⟨raw_eq, finite⟩,
      Option.bind_some, written_eq, Option.map_some]

end Action

/-- An effect with one more action in it. -/
def Effect.counted (effect : Effect) : Effect :=
  { effect with applied := effect.applied + 1 }

/-- An action that calculates the total amount. -/
def totalling (parameters : Fields) : Action :=
  ⟨.calculate, parameters ++ [("target", .string "totalAmount")]⟩

def netAndTax : Action := totalling [("fields", .array [.string "net", .string "tax"])]

/-- A rule of some actions that applies to every record. -/
def unconditional (actions : List Action) : Rule :=
  ⟨"total", "Total", none, .approval, Rule.defaultPriority, true, [], actions, ⟨0, 0⟩, ⟨0, 0⟩⟩

theorem Rule.perform_of_calculates (rule : Rule) {action : Action} (calculates : action.kind = .calculate)
    (rest : List Action) {record written : Record} {target : String} {value : Float} (now : Instant)
    (through : action.Calculates record target value written) :
    rule.perform now (action :: rest) record =
      (rule.perform now rest (written.insert "calculatedAt" (.string now.stamp))).counted := by
  have performed := (action.calculate?_eq_some_iff record now _).2 ⟨target, value, written, through, rfl⟩
  rw [perform, Action.perform?, calculates]
  simp only [performed, Action.notifications, calculates, List.nil_append, Effect.counted]

theorem Rule.perform_of_not_calculates (rule : Rule) {action : Action} (calculates : action.kind = .calculate)
    (rest : List Action) {record : Record} (now : Instant)
    (fails : ∀ target value written, ¬action.Calculates record target value written) :
    rule.perform now (action :: rest) record = rule.perform now rest record := by
  have skipped : action.calculate? record now = none := by
    by_contra performed
    obtain ⟨changed, performed⟩ := Option.ne_none_iff_exists'.1 performed
    obtain ⟨target, value, written, through, -⟩ :=
      (action.calculate?_eq_some_iff record now changed).1 performed
    exact fails target value written through
  rw [perform, Action.perform?, calculates]
  simp only [skipped]

/-- A calculation is counted exactly if it goes through, and is skipped without a trace otherwise, as it is
when a sum, product, difference or ratio is not finite. What a counted one writes is a number if its outcome is
finite up to the last step of rounding, and null if it is not. -/
theorem counted_calculation_numeric_iff (rule : Rule) {action : Action} (calculates : action.kind = .calculate)
    (rest : List Action) (record : Record) (now : Instant) :
    ((∃ target value written, action.Calculates record target value written ∧
        rule.perform now (action :: rest) record =
          (rule.perform now rest (written.insert "calculatedAt" (.string now.stamp))).counted ∧
        ((∃ number, Json.ofCalculated (action.rounded value) = .number number) ↔
          (action.scaled value).isFinite = true) ∧
        (Json.ofCalculated (action.rounded value) = .null ↔ (action.scaled value).isFinite = false)) ∨
      ((∀ target value written, ¬action.Calculates record target value written) ∧
        rule.perform now (action :: rest) record = rule.perform now rest record)) ∧
    ∀ value, action.raw? record = some value → action.formula? ≠ some .lineItems → value.isFinite = false →
      rule.perform now (action :: rest) record = rule.perform now rest record := by
  constructor
  · by_cases through : ∃ target value written, action.Calculates record target value written
    · obtain ⟨target, value, written, through⟩ := through
      refine .inl ⟨target, value, written, through, ?_, ?_, ?_⟩
      · exact rule.perform_of_calculates calculates rest now through
      · rw [Json.exists_ofCalculated_eq_number_iff, action.isFinite_rounded]
      · rw [Json.ofCalculated_eq_null_iff, action.isFinite_rounded]
    · have fails : ∀ target value written, ¬action.Calculates record target value written :=
        fun target value written found => through ⟨target, value, written, found⟩
      exact .inr ⟨fails, rule.perform_of_not_calculates calculates rest now fails⟩
  · intro value outcome overOperands infinite
    refine rule.perform_of_not_calculates calculates rest now (fun target found written through => ?_)
    obtain rfl : value = found := Option.some.inj (outcome.symm.trans through.raw_eq)
    have finite := through.finite.resolve_left overOperands
    rw [infinite] at finite
    cases finite

theorem net_and_tax_counted :
    netAndTax.kind = .calculate ∧ ∃ target value written,
      netAndTax.Calculates [("net", .ofInt 100), ("tax", .ofInt 19)] target value written ∧
        ∃ number, Json.ofCalculated (netAndTax.rounded value) = .number number := by
  refine ⟨rfl, ?_⟩
  obtain ⟨target, value, written, through, -, numeric, -⟩ | ⟨-, skipped⟩ :=
    (counted_calculation_numeric_iff (unconditional [netAndTax]) (rfl : netAndTax.kind = .calculate) []
      [("net", .ofInt 100), ("tax", .ofInt 19)] ⟨0, 0⟩).1
  · have finite : value.isFinite = true := through.finite.resolve_left (by decide)
    exact ⟨target, value, written, through, numeric.2 finite⟩
  · have applied : (Rule.perform (unconditional [netAndTax]) ⟨0, 0⟩ [netAndTax]
        [("net", .ofInt 100), ("tax", .ofInt 19)]).applied = 1 := by decide +kernel
    rw [skipped] at applied
    cases applied

/-- The total of one line of 10²⁰⁰ pieces at a price of 10²⁰⁰. -/
def oversizedTotal : Effect :=
  (unconditional [totalling [("formula", .string "line_items")]]).effect
    [("items", .array [.object [("quantity", .ofFloat 1e200), ("unitPrice", .ofFloat 1e200)]])] ⟨0, 0⟩

/-- An amount of 10³⁰⁰ rounded to ten decimals. -/
def overscaledTotal : Effect :=
  (unconditional [totalling [("fields", .array [.string "amount"]), ("round", .ofInt 10)]]).effect
    [("amount", .ofFloat 1e300)] ⟨0, 0⟩

theorem overflow_counted_as_null :
    (oversizedTotal.applied = 1 ∧
      (Record.resolve oversizedTotal.record "totalAmount").any Json.isNull = true) ∧
    overscaledTotal.applied = 1 ∧
      (Record.resolve overscaledTotal.record "totalAmount").any Json.isNull = true := by
  decide +kernel

end Verdict
