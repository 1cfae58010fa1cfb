import Verdict.Evaluation.Condition
import Verdict.Proofs.Json.Agreement
/-!
How conditions compare numbers. Every test looks at the binary64 numbers nearest to what it compares, so integers
are told apart only if they are far enough from each other for the 53 bits that are kept. What comes out never
contradicts the order of the integers, but may take two of them for one.
-/

namespace Verdict

open Decimal (nearest)

/-- An integer that fits a signed or an unsigned word of 64 bits. -/
abbrev Word := { value : Int // -9223372036854775808 ≤ value ∧ value < 18446744073709551616 }

def Word.json (word : Word) : Json :=
  .number (.integer word.1 word.2)

namespace Operator

section Numbers

variable (left right : Number)

theorem greaterThan_holds_iff :
    greaterThan.holds (some (.number left)) (.number right) = true ↔ right.weight < left.weight :=
  decide_eq_true_iff.trans (right.toFloat_lt_iff left)

theorem lessThan_holds_iff :
    lessThan.holds (some (.number left)) (.number right) = true ↔ left.weight < right.weight :=
  decide_eq_true_iff.trans (left.toFloat_lt_iff right)

theorem greaterEqual_holds_iff :
    greaterEqual.holds (some (.number left)) (.number right) = true ↔ right.weight ≤ left.weight :=
  decide_eq_true_iff.trans (right.toFloat_le_iff left)

theorem lessEqual_holds_iff :
    lessEqual.holds (some (.number left)) (.number right) = true ↔ left.weight ≤ right.weight :=
  decide_eq_true_iff.trans (left.toFloat_le_iff right)

end Numbers

/-- A value is a member of an array if it agrees with an item. -/
theorem isIn_holds_iff (found : Json) (items : List Json) :
    isIn.holds (some found) (.array items) = true ↔ ∃ item ∈ items, found.agrees item = true :=
  List.any_eq_true

theorem notIn_holds (found : Json) (items : List Json) :
    notIn.holds (some found) (.array items) = !isIn.holds (some found) (.array items) :=
  rfl

theorem notEquals_holds (found expected : Json) :
    notEquals.holds (some found) expected = !equals.holds (some found) expected :=
  rfl

end Operator

/-- The tests on two integers come out as comparing what is seen of them does. -/
structure ComparedBy (seen : Int → Int) (left right : Word) : Prop where
  agrees : left.json.agrees right.json = true ↔ seen left = seen right
  equals : Operator.equals.holds (some left.json) right.json = true ↔ seen left = seen right
  notEquals : Operator.notEquals.holds (some left.json) right.json = true ↔ seen left ≠ seen right
  greaterThan : Operator.greaterThan.holds (some left.json) right.json = true ↔ seen right < seen left
  lessThan : Operator.lessThan.holds (some left.json) right.json = true ↔ seen left < seen right
  greaterEqual : Operator.greaterEqual.holds (some left.json) right.json = true ↔ seen right ≤ seen left
  lessEqual : Operator.lessEqual.holds (some left.json) right.json = true ↔ seen left ≤ seen right

section Words

variable (left right : Word)

theorem Word.agrees_iff : left.json.agrees right.json = true ↔ nearest left = nearest right :=
  (Number.toFloat_beq_iff _ _).trans Int.cast_inj

theorem comparedBy_nearest : ComparedBy nearest left right where
  agrees := left.agrees_iff right
  equals := left.agrees_iff right
  notEquals := by
    rw [Operator.notEquals_holds, Bool.not_eq_true', Bool.eq_false_iff]
    exact not_congr (left.agrees_iff right)
  greaterThan := (Operator.greaterThan_holds_iff _ _).trans Int.cast_lt
  lessThan := (Operator.lessThan_holds_iff _ _).trans Int.cast_lt
  greaterEqual := (Operator.greaterEqual_holds_iff _ _).trans Int.cast_le
  lessEqual := (Operator.lessEqual_holds_iff _ _).trans Int.cast_le

variable {left right}

/-- Rounding turns no order round, so comparing goes wrong only where it makes two integers one. -/
theorem comparedBy_id_iff : ComparedBy id left right ↔ (nearest left = nearest right → left = right) := by
  have compared := comparedBy_nearest left right
  constructor
  · intro exactly same
    exact Subtype.ext (exactly.agrees.1 (compared.agrees.2 same))
  · intro apart
    have same : nearest left = nearest right ↔ left.1 = right.1 :=
      ⟨fun rounded => congrArg Subtype.val (apart rounded), fun equal => congrArg nearest equal⟩
    have atMost : nearest left ≤ nearest right ↔ left.1 ≤ right.1 := by
      refine ⟨fun rounded => ?_, Decimal.nearest_mono⟩
      by_contra above
      have reversed := Decimal.nearest_mono (not_le.1 above).le
      exact above (same.1 (le_antisymm rounded reversed)).le
    have atLeast : nearest right ≤ nearest left ↔ right.1 ≤ left.1 := by
      refine ⟨fun rounded => ?_, Decimal.nearest_mono⟩
      by_contra below
      have reversed := Decimal.nearest_mono (not_le.1 below).le
      exact below (same.1 (le_antisymm reversed rounded)).ge
    exact {
      agrees := compared.agrees.trans same
      equals := compared.equals.trans same
      notEquals := compared.notEquals.trans (not_congr same)
      greaterThan := compared.greaterThan.trans (lt_iff_lt_of_le_iff_le atMost)
      lessThan := compared.lessThan.trans (lt_iff_lt_of_le_iff_le atLeast)
      greaterEqual := compared.greaterEqual.trans atLeast
      lessEqual := compared.lessEqual.trans atMost }

end Words

theorem isIn_holds_iff_nearest (word : Word) (others : List Word) :
    Operator.isIn.holds (some word.json) (.array (others.map Word.json)) = true ↔
      ∃ other ∈ others, nearest word = nearest other := by
  rw [Operator.isIn_holds_iff]
  simp only [List.mem_map, exists_exists_and_eq_and, Word.agrees_iff]

/-- Values agree exactly if they are alike with numbers compared by weight. That is as comparing them by value exactly
if numbers of one weight in the same places have one value. The tests on two integers come out as for the integers
rounded to 53 bits. That is as for the integers themselves exactly if rounding does not make them one, as it does not
up to 2⁵³ and where they are more than 2048 apart. -/
theorem integers_compared_by_nearest {left right : Json} (ordered : left.Ordered) (ordered' : right.Ordered)
    (word other : Word) (others : List Word) :
    ((left.agrees right = true ↔ left.Alike Number.Level right) ∧
      ((left.agrees right = true ↔ left.Alike Number.Equal right) ↔
        (left.Alike Number.Level right → left.Alike Number.Equal right))) ∧
    (ComparedBy nearest word other ∧
      (ComparedBy id word other ↔ (nearest word = nearest other → word = other)) ∧
      ((word.1.natAbs ≤ 2 ^ 53 ∧ other.1.natAbs ≤ 2 ^ 53) ∨ 2048 < |word.1 - other.1| → ComparedBy id word other)) ∧
    (Operator.isIn.holds (some word.json) (.array (others.map Word.json)) = true ↔
      ∃ other ∈ others, nearest word = nearest other) ∧
    (Operator.notIn.holds (some word.json) (.array (others.map Word.json)) = true ↔
      ∀ other ∈ others, nearest word ≠ nearest other) := by
  have agree := Json.agrees_iff left right ordered ordered'
  refine ⟨⟨agree, ?depth⟩, ⟨comparedBy_nearest word other, comparedBy_id_iff, fun far => ?apart⟩,
    isIn_holds_iff_nearest word others, ?notIn⟩
  case depth =>
    rw [agree]
    exact ⟨Iff.mp, fun exactly => ⟨exactly, Json.Alike.mono Number.Equal.level⟩⟩
  case apart =>
    refine comparedBy_id_iff.2 (fun same => ?_)
    obtain ⟨small, small'⟩ | distance := far
    · rw [Decimal.nearest_of_natAbs_le small, Decimal.nearest_of_natAbs_le small'] at same
      exact Subtype.ext same
    · have near := Decimal.abs_sub_le_of_nearest_eq (Number.natAbs_lt word.2) (Number.natAbs_lt other.2) same
      exact absurd near (not_le.2 distance)
  case notIn =>
    rw [Operator.notIn_holds, Bool.not_eq_true', Bool.eq_false_iff, Ne, isIn_holds_iff_nearest]
    simp only [not_exists, not_and, ne_eq]

/-- A record with one line item of an amount. -/
def oneLine (amount : Word) : Json :=
  .object [("items", .array [.object [("amount", amount.json)]])]

theorem ordered_oneLine (amount : Word) : (oneLine amount).Ordered := by
  have line : (Json.object [("amount", amount.json)]).Ordered :=
    Fields.Ordered.nil.insert "amount" (.number _)
  exact Fields.Ordered.nil.insert "items" (.array (List.forall_mem_singleton.2 line))

/-- The greatest integer up to which all are told apart. -/
def lastExact : Word := ⟨9007199254740992, by decide⟩

def beforeLast : Word := ⟨9007199254740991, by decide⟩

def afterLast : Word := ⟨9007199254740993, by decide⟩

theorem amounts_alike_after_last_exact :
    ¬(oneLine lastExact).Alike Number.Level (oneLine beforeLast) ∧
      (oneLine afterLast).Alike Number.Level (oneLine lastExact) ∧ ComparedBy id lastExact beforeLast := by
  obtain ⟨⟨before, -⟩, ⟨-, -, exactly⟩, -⟩ := integers_compared_by_nearest (ordered_oneLine lastExact)
    (ordered_oneLine beforeLast) lastExact beforeLast []
  obtain ⟨⟨after, -⟩, -⟩ := integers_compared_by_nearest (ordered_oneLine afterLast) (ordered_oneLine lastExact)
    afterLast lastExact []
  refine ⟨fun alike => ?_, after.1 (by decide +kernel), exactly (.inl (by decide))⟩
  have differ : (oneLine lastExact).agrees (oneLine beforeLast) = false := by decide +kernel
  exact Bool.false_ne_true (differ.symm.trans (before.2 alike))

/-- Two integers beyond 2⁵³ that are taken for one, by themselves, inside of other values, and by every test. -/
theorem neighbours_taken_for_one :
    afterLast.1 ≠ lastExact.1 ∧ afterLast.json.agrees lastExact.json = true ∧
      (oneLine afterLast).agrees (oneLine lastExact) = true ∧
      lastExact.1 < afterLast.1 ∧ Operator.greaterThan.holds (some afterLast.json) lastExact.json = false ∧
      Operator.lessThan.holds (some lastExact.json) afterLast.json = false ∧
      Operator.greaterEqual.holds (some lastExact.json) afterLast.json = true ∧
      Operator.lessEqual.holds (some afterLast.json) lastExact.json = true ∧
      Operator.isIn.holds (some afterLast.json) (.array [lastExact.json]) = true ∧
      Operator.notIn.holds (some afterLast.json) (.array [lastExact.json]) = false := by
  decide +kernel

end Verdict
