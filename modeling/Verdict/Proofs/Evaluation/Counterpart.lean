import Verdict.Json.Reader
import Verdict.Proofs.Evaluation.Ordering
import Verdict.Proofs.Expression.Composition
import Verdict.Proofs.Expression.Spelling
import Verdict.Proofs.Outcome
/-!
The two ways to hold one field against a literal: a condition on the field, and an expression that compares the
field's name with the literal. Where a field is absent only the condition can say that it differs, and where both are
texts the condition orders them as numbers and the expression by their characters; apart from that the two say the
same.
-/

namespace Verdict

open Expression (Comparator Lexeme Located Cuts Separates Writes parse tokenize)
open Time (Instant)

/-- A name that expressions read as the name of a field. -/
def Expression.IsIdentifier (name : String) : Prop :=
  ∃ first others, name.toList = first :: others ∧ (Lexeme.word first others).Allowed none ∧
    (Lexeme.word first others).StandsFor (.identifier name)

/-- A text that expressions read as a literal of a value, in whichever way it is written. -/
def Expression.IsLiteral (text : String) (value : Json) : Prop :=
  ∃ located, tokenize text = .ok [located] ∧ Operand located.token (.literal value)

/-- A field's name, a comparison sign and a literal, with a blank between them. -/
def comparisonText (name : String) (comparator : Comparator) (literal : String) : String :=
  String.ofList (name.toList ++ ' ' :: (comparator.symbol ++ ' ' :: literal.toList))

/-- The condition that holds a field against a value. -/
def fieldForm (name : String) (comparator : Comparator) (expected : Json) (connective : Connective) : Condition :=
  ⟨.field name comparator.operator expected, connective⟩

/-- The condition whose expression compares a field with a literal. -/
def expressionForm (name : String) (comparator : Comparator) (literal : String) (connective : Connective) : Condition :=
  ⟨.expression (comparisonText name comparator literal), connective⟩

namespace Expression

variable {name literal : String} {comparator : Comparator} {value : Json}

namespace IsIdentifier

theorem ne_empty (identifier : IsIdentifier name) : name.isEmpty = false := by
  obtain ⟨first, others, text, -, -⟩ := identifier
  rw [String.isEmpty_eq_false_iff]
  rintro rfl
  cases text

/-- A name has no point in it, so that as a path it is one segment. -/
theorem resolve_eq (identifier : IsIdentifier name) (record : Record) : record.resolve name = record.get? name := by
  obtain ⟨first, others, text, ⟨starts, continues⟩, -⟩ := identifier
  have noPoint : '.' ∉ name.toList := by
    rw [text, List.mem_cons, not_or]
    refine ⟨fun same => ?_, fun inside => ?_⟩
    · exact ne_of_class (startsName_iff.2 starts) (rfl : startsName '.' = false) same.symm
    · have other := (continuesName_eq '.').trans (List.all_eq_true.1 continues _ inside)
      exact ne_of_class other (rfl : continuesName '.' = false) rfl
  rw [Record.resolve, Text.segments, Text.splitAtMark_of_not_mem noPoint, List.map_singleton, String.ofList_toList]
  exact Option.bind_fun_some _

end IsIdentifier

theorem separates_blank (behind : List Char) : Separates (' ' :: behind) := by
  rintro first ⟨⟩
  decide

theorem cuts_comparisonText (identifier : IsIdentifier name) {located : Located}
    (cut : tokenize literal = .ok [located]) :
    Cuts none (comparisonText name comparator literal).toList
      [.identifier name, .comparison comparator, located.token] := by
  obtain ⟨first, others, text, word, names⟩ := identifier
  have last : Cuts (some (.comparison comparator)) literal.toList [located.token] :=
    List.append_nil literal.toList ▸ cuts_append cut (by rintro _ ⟨⟩) rfl .nil
  have sign : Cuts (some (.identifier name)) (comparator.symbol ++ ' ' :: literal.toList)
      [.comparison comparator, located.token] :=
    @Cuts.lexeme (some (.word first others)) _ (.comparison comparator) _ _ trivial nofun (.comparison comparator)
      (separates_blank _) _ (.blank (by decide) last)
  rw [comparisonText, String.toList_ofList, text]
  exact Cuts.lexeme word (fun _ => rfl) names (separates_blank _) (.blank (by decide) sign)

theorem parse_comparisonText (identifier : IsIdentifier name) (denotes : IsLiteral literal value) :
    parse (comparisonText name comparator literal) = .ok (.compare comparator (.identifier name) (.literal value)) := by
  obtain ⟨⟨token, _⟩, cut, operand⟩ := denotes
  have writes : Writes [.identifier name, .comparison comparator, token]
      (.compare comparator (.identifier name) (.literal value)) :=
    .any (.lastAlternative (.all (.lastConjunct (.compare comparator (.operand (.identifier name))
      (.operand operand))) (.single _))) (.single _)
  have flat : nesting [.identifier name, .comparison comparator, token] = 0 := by
    cases operand <;> rfl
  exact parse_of_cuts (cuts_comparisonText identifier cut) writes (flat ▸ Nat.zero_le _)

end Expression

namespace Json

/-- The values that literals of expressions have. -/
inductive Scalar : Json → Prop
  | null : Scalar .null
  | bool (value : Bool) : Scalar (.bool value)
  | number (value : Number) : Scalar (.number value)
  | string (value : String) : Scalar (.string value)

variable {value expected found : Json}

theorem isString_iff : value.isString = true ↔ ∃ text, value = .string text := by
  cases value <;> simp [isString]

theorem Scalar.alike_of_agrees (scalar : value.Scalar) (same : expected.agrees value = true) :
    expected.Alike Number.Level value := by
  cases scalar with
  | null =>
    cases expected with
    | null => exact .null
    | bool | number | string | array | object => cases same
  | bool value =>
    cases expected with
    | bool => exact beq_iff_eq.1 same ▸ .bool _
    | null | number | string | array | object => cases same
  | number number =>
    cases expected with
    | number number' => exact .number ((Number.toFloat_beq_iff number' number).1 same)
    | null | bool | string | array | object => cases same
  | string text =>
    cases expected with
    | string => exact beq_iff_eq.1 same ▸ .string _
    | null | bool | number | array | object => cases same

/-- Values of one weight are equal to the same numbers. -/
theorem Scalar.agrees_congr (scalar : value.Scalar) (alike : expected.Alike Number.Level value) :
    found.agrees expected = found.agrees value := by
  cases alike with
  | null | bool | string => rfl
  | number same =>
    cases found with
    | number number =>
      refine Bool.eq_iff_iff.2 ?_
      rw [agrees, agrees, Number.toFloat_beq_iff, Number.toFloat_beq_iff]
      exact ⟨fun level => level.trans same, fun level => level.trans same.symm⟩
    | null | bool | string | array | object => rfl
  | array | object => cases scalar

theorem Scalar.of_isLiteral {literal : String} (denotes : Expression.IsLiteral literal value) : value.Scalar := by
  obtain ⟨⟨token, _⟩, -, operand⟩ := denotes
  cases operand with
  | number number => exact .number (.float number)
  | string text => exact .string text
  | boolean value => exact .bool value
  | null => exact .null

end Json

section Forms

variable {name literal : String} {comparator : Comparator} {value expected : Json}
  {connective : Connective} {record : Record} {strict : Bool} {now : Instant}

theorem fieldForm_passed (identifier : Expression.IsIdentifier name) :
    ((fieldForm name comparator expected connective).evaluate record none strict now).passed =
      comparator.operator.holds (record.get? name) expected := by
  change (fieldResult record name comparator.operator expected strict).passed = _
  rw [fieldResult, identifier.ne_empty, identifier.resolve_eq]
  rfl

theorem expressionForm_passed (identifier : Expression.IsIdentifier name) (other : name ≠ deliveryDays)
    (denotes : Expression.IsLiteral literal value) :
    ((expressionForm name comparator literal connective).evaluate record none strict now).passed =
      (record.get? name).any (·.satisfies comparator value) := by
  simp only [Condition.evaluate, expressionForm, Expression.parse_comparisonText identifier denotes,
    expressionResult, Expr.holds, Expr.value, Scope.lookup_of_ne other, Expr.scope]
  cases record.get? name <;> rfl

/-- The comparison of a found value with a literal: the condition and the expression differ only on two texts. -/
theorem operator_holds_eq_satisfies (scalar : value.Scalar) (same : expected.agrees value = true) (found : Json)
    (apart : comparator.isOrdering = true → (found.isString && value.isString) = false) :
    comparator.operator.holds (some found) expected = found.satisfies comparator value := by
  have alike := scalar.alike_of_agrees same
  cases ordering : comparator.isOrdering with
  | true =>
    rw [Comparator.operator_holds ordering, alike.weight?_eq, Json.satisfies_eq_between ordering (apart ordering)]
    rfl
  | false =>
    cases comparator with
    | equal => exact scalar.agrees_congr alike
    | different => exact congrArg not (scalar.agrees_congr alike)
    | greater | less | greaterEqual | lessEqual => cases ordering

/-- A condition on a field that is absent holds only if it asks for a difference. -/
theorem operator_holds_absent (comparator : Comparator) (expected : Json) :
    comparator.operator.holds none expected = decide (comparator = .different) := by
  cases comparator <;> rfl

/-- The two forms differ exactly where a field is absent and a difference is asked for, which only the condition
finds, and where two texts stand in another order than the numbers that they write. -/
theorem forms_differ_iff (identifier : Expression.IsIdentifier name) (other : name ≠ deliveryDays)
    (denotes : Expression.IsLiteral literal value) (same : expected.agrees value = true) :
    (((fieldForm name comparator expected connective).evaluate record none strict now).passed ≠
        ((expressionForm name comparator literal connective).evaluate record none strict now).passed ↔
      (record.get? name = none ∧ comparator = .different) ∨
        (comparator.isOrdering = true ∧
          ∃ text text', record.get? name = some (.string text) ∧ value = .string text' ∧
            comparator.between (Json.string text).weight? (Json.string text').weight? ≠
              comparator.holds (compare text text'))) ∧
    (record.get? name = none → comparator = .different →
      ((fieldForm name comparator expected connective).evaluate record none strict now).passed = true ∧
        ((expressionForm name comparator literal connective).evaluate record none strict now).passed = false) := by
  have scalar := Json.Scalar.of_isLiteral denotes
  rw [fieldForm_passed identifier, expressionForm_passed identifier other denotes]
  refine ⟨?_, fun absent different => ?_⟩
  · cases present : record.get? name with
    | none => simp [operator_holds_absent]
    | some found =>
      by_cases texts : comparator.isOrdering = true ∧ (found.isString && value.isString) = true
      · obtain ⟨ordering, texts⟩ := texts
        obtain ⟨isText, isText'⟩ := Bool.and_eq_true_iff.1 texts
        obtain ⟨text, rfl⟩ := Json.isString_iff.1 isText
        obtain ⟨text', rfl⟩ := Json.isString_iff.1 isText'
        have weights := (scalar.alike_of_agrees same).weight?_eq
        rw [Option.any_some, Json.satisfies_texts ordering, Comparator.operator_holds ordering, weights]
        simp [ordering]
      · have apart : comparator.isOrdering = true → (found.isString && value.isString) = false :=
          fun ordering => Bool.eq_false_iff.2 fun both => texts ⟨ordering, both⟩
        rw [Option.any_some, operator_holds_eq_satisfies scalar same found apart]
        refine iff_of_false (fun differ => differ rfl) ?_
        rintro (⟨⟨⟩, -⟩ | ⟨ordering, text, text', ⟨⟩, rfl, -⟩)
        exact texts ⟨ordering, rfl⟩
  · rw [absent, operator_holds_absent, different]
    exact ⟨rfl, rfl⟩

end Forms

/-- A record with one grade, which is a text. -/
def graded (grade : String) : Record :=
  [("grade", .string grade)]

/-- A grade of two digits is greater than nine as a number, but not as a text. -/
theorem ten_against_nine :
    ((fieldForm "grade" .greater (.string "9") .and).evaluate (graded "10") none false ⟨0, 0⟩).passed ≠
      ((expressionForm "grade" .greater "'\\9'" .and).evaluate (graded "10") none false ⟨0, 0⟩).passed := by
  have identifier : Expression.IsIdentifier "grade" :=
    ⟨'g', ['r', 'a', 'd', 'e'], rfl, by decide, .identifier (by decide)⟩
  have denotes : Expression.IsLiteral "'\\9'" (.string "9") := ⟨⟨.string "9", 0⟩, by cbv, .string "9"⟩
  exact (forms_differ_iff identifier (by decide +kernel) denotes (by decide +kernel)).1.2
    (.inr ⟨rfl, "10", "9", rfl, rfl, by decide +kernel⟩)

/-- Two texts may stand in the order of their numbers. And a number may be read as one value where a condition is
loaded, and as its neighbour where the same text stands in an expression. -/
theorem forms_agree_on_grade_and_differ_on_rate :
    (((fieldForm "grade" .greater (.string "3") .and).evaluate (graded "5") none false ⟨0, 0⟩).passed = true ∧
      ((expressionForm "grade" .greater "'3'" .and).evaluate (graded "5") none false ⟨0, 0⟩).passed = true) ∧
    ∃ rate, Json.read "0.21307805736565538" = .ok rate ∧
      ((fieldForm "rate" .equal rate .and).evaluate [("rate", rate)] none false ⟨0, 0⟩).passed = true ∧
        ((expressionForm "rate" .equal "0.21307805736565538" .and).evaluate [("rate", rate)] none false
          ⟨0, 0⟩).passed = false := by
  refine ⟨by decide +kernel, ?_⟩
  have differ : (Json.read "0.21307805736565538").toOption.any (fun rate =>
      ((fieldForm "rate" .equal rate .and).evaluate [("rate", rate)] none false ⟨0, 0⟩).passed &&
        !((expressionForm "rate" .equal "0.21307805736565538" .and).evaluate [("rate", rate)] none false
          ⟨0, 0⟩).passed) = true := by
    decide +kernel
  obtain ⟨rate, read, passed⟩ := (Option.any_eq_true _ _).1 differ
  obtain ⟨field, expression⟩ := Bool.and_eq_true_iff.1 passed
  exact ⟨rate, Outcome.eq_ok_of_toOption read, field, by simpa using expression⟩

end Verdict
