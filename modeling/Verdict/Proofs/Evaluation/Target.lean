import Verdict.Proofs.Evaluation.Calculation
import Verdict.Proofs.Record.Writing
/-!
What a calculation leaves in a record. Its outcome is written before the time is, under a key of its own at the
top of the record. So the outcome stands at the target unless the target lies at or below that key, where the
time has been put in its place; all paths that part from both lead where they did.
-/

namespace Verdict

open Time (Instant)

namespace Record

theorem segments_calculatedAt : Text.segments "calculatedAt" = ["calculatedAt"] := by
  decide +kernel

section Stamp

variable (record : Record) (now : Instant)

/-- A record with the time of a calculation. -/
def stamped : Record :=
  record.insert "calculatedAt" (.string now.stamp)

theorem writeAt_calculatedAt :
    record.writeAt (Text.segments "calculatedAt") (.string now.stamp) = some (record.stamped now) := by
  rw [segments_calculatedAt]
  rfl

theorem resolve_stamped : (record.stamped now).resolve "calculatedAt" = some (.string now.stamp) :=
  follow?_writeAt (record.writeAt_calculatedAt now)

variable {record} {path : String}

/-- The time is not seen but at its key and below. -/
theorem resolve_stamped_of_not_above (outside : ¬Above "calculatedAt" path) :
    (record.stamped now).resolve path = record.resolve path := by
  refine follow?_writeAt_of_apart (record.writeAt_calculatedAt now) (fun above => ?_) outside
  obtain ⟨first, rest, split⟩ := List.exists_cons_of_ne_nil (segments_ne_nil path)
  rw [split, segments_calculatedAt, List.cons_prefix_cons] at above
  obtain ⟨rfl, tail⟩ := above
  apply outside
  rw [Above, split, List.prefix_nil.1 tail, segments_calculatedAt]

variable (record) in
/-- At its key and below there is nothing but the time. -/
theorem resolve_stamped_of_above (inside : Above "calculatedAt" path) :
    (record.stamped now).resolve path = some (.string now.stamp) ∨ (record.stamped now).resolve path = none := by
  obtain ⟨below, split⟩ := inside
  rw [segments_calculatedAt] at split
  have found : (record.stamped now).get? "calculatedAt" = some (.string now.stamp) :=
    Fields.get?_insert_self ..
  rw [resolve, ← split, List.singleton_append, follow?, found, Option.bind_some]
  cases below with
  | nil => exact .inl rfl
  | cons next rest => exact .inr rfl

end Stamp

end Record

open Record (Above)

/-- An action that is counted changes the record that it is given. -/
theorem Rule.perform_of_counted {rule : Rule} {action : Action} {record : Record} {now : Instant}
    (counted : (rule.perform now [action] record).applied = 1) :
    ∃ changed, action.perform? record now = some changed ∧ (rule.perform now [action] record).record = changed := by
  rw [perform] at counted ⊢
  cases performed : action.perform? record now with
  | none =>
    rw [performed] at counted
    cases counted
  | some changed => exact ⟨changed, rfl, rfl⟩

/-- A counted calculation whose rounded outcome is finite leaves a number of this value at its target exactly if
the target is not at or below `calculatedAt`. There the time stands after it, whatever the target is, and a path
that is not at or below this key leads where it did unless it runs through the target or the target through it. -/
theorem calculated_number_stands_iff (rule : Rule) {action : Action} (calculates : action.kind = .calculate)
    (record : Record) (now : Instant) (counted : (rule.perform now [action] record).applied = 1) :
    ∃ target value, action.text? "target" = some target ∧ action.outcome? record = some value ∧
      ((action.rounded value).isFinite = true →
        ((∃ number, (rule.perform now [action] record).record.resolve target = some (.number number) ∧
            number.value = (Decimal.Binary.ofFloat (action.rounded value)).value) ↔
          ¬Above "calculatedAt" target)) ∧
      (rule.perform now [action] record).record.resolve "calculatedAt" = some (.string now.stamp) ∧
      ∀ path, ¬Above "calculatedAt" path → ¬Above path target → ¬Above target path →
        (rule.perform now [action] record).record.resolve path = record.resolve path := by
  obtain ⟨changed, performed, left⟩ := Rule.perform_of_counted counted
  rw [Action.perform?, calculates] at performed
  obtain ⟨target, value, written, through, rfl⟩ := (action.calculate?_eq_some_iff record now changed).1 performed
  rw [left]
  refine ⟨target, value, through.target_eq, ?outcome, fun finite => ?number, ?time, ?frame⟩
  case outcome => exact (action.outcome?_eq_some_iff record value).2 ⟨through.raw_eq, through.finite⟩
  case number =>
    constructor
    · rintro ⟨number, found, -⟩ inside
      obtain time | nothing := written.resolve_stamped_of_above now inside
      · cases time.symm.trans found
      · cases nothing.symm.trans found
    · intro outside
      obtain ⟨number, same, exactly⟩ := Json.ofCalculated_eq_number finite
      refine ⟨number, ?_, exactly⟩
      exact (Record.resolve_stamped_of_not_above now outside).trans
        (same ▸ Record.resolve_write? through.written_eq)
  case time => exact written.resolve_stamped now
  case frame =>
    intro path outside notAbove notBelow
    exact (Record.resolve_stamped_of_not_above now outside).trans
      (Record.resolve_write?_of_apart through.written_eq notAbove notBelow)

/-- The amount of a record, calculated anew at a target. -/
def amountAt (target : String) : Action :=
  ⟨.calculate, [("fields", .array [.string "amount"]), ("target", .string target)]⟩

/-- What is left of a record with an amount and a nested total. -/
def amountLeft (target : String) : Effect :=
  (unconditional [amountAt target]).perform ⟨0, 0⟩ [amountAt target]
    [("amount", .ofNat 5), ("totals", .object [("gross", .ofNat 7)])]

theorem nested_amount_stands :
    (∃ number, (amountLeft "totals.net").record.resolve "totals.net" = some (.number number)) ∧
      (amountLeft "totals.net").record.resolve "totals.gross" = some (.ofNat 7) := by
  have counted : (amountLeft "totals.net").applied = 1 := by decide +kernel
  obtain ⟨target, value, named, outcome, number, -, frame⟩ :=
    calculated_number_stands_iff (unconditional [amountAt "totals.net"]) (rfl : (amountAt "totals.net").kind = _)
      [("amount", .ofNat 5), ("totals", .object [("gross", .ofNat 7)])] ⟨0, 0⟩ counted
  obtain rfl : "totals.net" = target := Option.some.inj named
  have finite : ((amountAt "totals.net").rounded value).isFinite = true := by
    have all : ((amountAt "totals.net").outcome? [("amount", .ofNat 5), ("totals", .object [("gross", .ofNat 7)])]).all
        (fun value => ((amountAt "totals.net").rounded value).isFinite) = true := by decide +kernel
    rwa [outcome] at all
  obtain ⟨found, stands, -⟩ := (number finite).2 (by decide +kernel)
  refine ⟨⟨found, stands⟩, (frame "totals.gross" ?_ ?_ ?_).trans rfl⟩ <;> decide +kernel

/-- A calculation whose target is where the time goes is counted, and its outcome is gone. -/
theorem amount_lost_to_time :
    ((amountLeft "calculatedAt").applied = 1 ∧
      ((amountLeft "calculatedAt").record.resolve "calculatedAt").any Json.isString = true) ∧
    (amountLeft "calculatedAt.total").applied = 1 ∧
      ((amountLeft "calculatedAt.total").record.resolve "calculatedAt.total").isNone = true := by
  decide +kernel

end Verdict
