import Verdict.Rule.Intake
import Verdict.Proofs.Rule.Reading
import Verdict.Proofs.Rule.Validation
/-!
What the first look at a rule set ensures. Where the rule set and a rule in it are written as objects, every
condition of the rule has known keys, those of one kind of test only, and a value if its operator needs one.
Rule sets and rules that are written as arrays of their fields are read as well, but nobody looks at their
conditions first: a rule set is accepted exactly if it can be read, is valid, and keeps this where it is
looked at.
-/

namespace Verdict

open FieldViolation (report)
open Time (Instant)

/-- A condition that tests a field by an operator that needs a value has one. -/
def Condition.Complete (condition : Condition) : Prop :=
  ∀ path operator expected, condition.test = .field path operator expected →
    operator.needsNoValue = false → expected ≠ .null

namespace Shape

open Validation (report_eq_nil_iff)

/-- A written condition has known keys only, and no key of a field test beside an expression. -/
def WellKeyed (written : Json) : Prop :=
  ∃ fields, written = .object fields ∧ (∀ key ∈ fields.map Prod.fst, key ∈ conditionKeys) ∧
    (Fields.hasKey fields "expression" = true → ∀ key ∈ fieldTestKeys, Fields.hasKey fields key = false)

/-- What is ensured of a rule that is written as an object: its written conditions are well keyed, and the
conditions that are read from them are complete. -/
def Ensured (written : Json) (rule : Rule) : Prop :=
  ∀ fields, written = .object fields → ∃ conditions,
    Fields.get? fields "conditions" = some (.array conditions) ∧ (∀ item ∈ conditions, WellKeyed item) ∧
      ∀ condition ∈ rule.conditions, condition.Complete

theorem keyFaults_eq_nil_iff {path : String} {fields : Fields} :
    keyFaults path fields = [] ↔ ∀ key ∈ fields.map Prod.fst, key ∈ conditionKeys := by
  simp [keyFaults]

theorem connectiveFaults_eq_nil {path : String} {fields : Fields} {connective : Connective}
    (read : (Fields.get? fields "logical_operator").elim (.ok Connective.and) Connective.decode =
      .ok connective) : connectiveFaults path fields = [] := by
  rw [connectiveFaults, report_eq_nil_iff]
  cases present : Fields.get? fields "logical_operator" with
  | none => simp
  | some value =>
    rw [present] at read
    have accepted : Connective.decode.refusal value = none := Decoder.refusal_eq_none_iff.2 ⟨_, read⟩
    simp [accepts, accepted]

/-- A test that is read from a text under `expression`, or from a path and an operator. -/
theorem ofFields?_eq_some {fields : Fields} {test : ConditionTest}
    (read : ConditionTest.ofFields? fields = some test) :
    (∃ source, Fields.get? fields "expression" = some (.string source) ∧ test = .expression source) ∨
      (∀ source, Fields.get? fields "expression" ≠ some (.string source)) ∧
        ∃ path operator, Fields.get? fields "field" = some (.string path) ∧
          (Fields.get? fields "operator").map Operator.decode = some (.ok operator) ∧
          test = .field path operator ((Fields.get? fields "value").getD .null) := by
  unfold ConditionTest.ofFields? at read
  split at read
  next source found => exact .inl ⟨source, found, (Option.some.inj read).symm⟩
  next noText =>
    split at read
    next path operator foundPath foundOperator =>
      exact .inr ⟨noText, path, operator, foundPath, foundOperator, (Option.some.inj read).symm⟩
    next => cases read

/-- Beside an expression that is a text, the fields are without fault if no field test stands there. -/
theorem expressionFaults_eq_nil_iff {path source : String} {fields : Fields} :
    expressionFaults path fields (.string source) = [] ↔
      ∀ key ∈ fieldTestKeys, Fields.hasKey fields key = false := by
  rw [expressionFaults, List.append_eq_nil_iff, report_eq_nil_iff, List.map_eq_nil_iff,
    List.filter_eq_nil_iff]
  simp [Json.isString]

theorem expressionFaults_ne_nil {path : String} {fields : Fields} {found : Json}
    (noText : ∀ source, found ≠ .string source) : expressionFaults path fields found ≠ [] := by
  have notString : found.isString = false := by
    cases found with
    | string source => exact absurd rfl (noText source)
    | _ => rfl
  simp [expressionFaults, report, notString]

/-- With its path and its operator a field test lacks at most its value. -/
theorem fieldTestFaults_eq_nil_iff {path subject : String} {fields : Fields} {operator : Operator}
    (foundPath : Fields.get? fields "field" = some (.string subject))
    (foundOperator : (Fields.get? fields "operator").map Operator.decode = some (.ok operator)) :
    fieldTestFaults path fields = [] ↔
      (operator.needsNoValue = false → (Fields.get? fields "value").getD .null ≠ .null) := by
  simp only [fieldTestFaults, foundPath, foundOperator, List.append_eq_nil_iff, report_eq_nil_iff]
  cases operator.needsNoValue <;> cases value : Fields.get? fields "value" with
  | none => simp [Json.isString]
  | some found => cases found <;> simp [Json.isString, Json.isNull]

/-- What is wrong with the test of a condition, whose kind is told by the key of an expression. -/
theorem testFaults_eq_nil_iff {path : String} {fields : Fields} {condition : Condition}
    (read : ConditionTest.ofFields? fields = some condition.test) :
    (Fields.get? fields "expression").elim (fieldTestFaults path fields) (expressionFaults path fields) = [] ↔
      (Fields.hasKey fields "expression" = true → ∀ key ∈ fieldTestKeys, Fields.hasKey fields key = false) ∧
        condition.Complete := by
  rcases ofFields?_eq_some read with
    ⟨source, found, test⟩ | ⟨noText, subject, operator, foundPath, foundOperator, test⟩
  · have complete : condition.Complete := by
      intro path operator expected same
      rw [test] at same
      cases same
    simp [found, Fields.hasKey, expressionFaults_eq_nil_iff, complete]
  · have complete : condition.Complete ↔
        (operator.needsNoValue = false → (Fields.get? fields "value").getD .null ≠ .null) := by
      simp [Condition.Complete, test]
    cases present : Fields.get? fields "expression" with
    | none =>
      rw [Option.elim_none, fieldTestFaults_eq_nil_iff foundPath foundOperator, complete]
      simp [Fields.hasKey, present]
    | some found =>
      -- Something else than a text stands under the key of an expression: a fault, and beside a field test.
      have beside : Fields.hasKey fields "field" = true := by simp [Fields.hasKey, foundPath]
      have faulty : expressionFaults path fields found ≠ [] :=
        expressionFaults_ne_nil (fun source same => noText source (same ▸ present))
      refine iff_of_false faulty (fun apart => ?_)
      have absent := apart.1 (by simp [Fields.hasKey, present]) "field" (by simp [fieldTestKeys])
      exact Bool.noConfusion (beside.symm.trans absent)

theorem conditionFaults_object (path : String) (fields : Fields) :
    conditionFaults path (.object fields) = keyFaults path fields ++ connectiveFaults path fields ++
      (fields.get? "expression").elim (fieldTestFaults path fields) (expressionFaults path fields) := by
  rw [conditionFaults]
  cases fields.get? "expression" <;> rfl

/-- A condition that can be read is without fault exactly if its keys fit and it is complete. -/
theorem conditionFaults_eq_nil_iff {path : String} {written : Json} {condition : Condition}
    (read : Condition.decode written = .ok condition) :
    conditionFaults path written = [] ↔ WellKeyed written ∧ condition.Complete := by
  obtain ⟨fields, rfl, joined, tested⟩ := Condition.decode_eq_ok_iff.1 read
  have wellKeyed : WellKeyed (.object fields) ↔ (∀ key ∈ fields.map Prod.fst, key ∈ conditionKeys) ∧
      (Fields.hasKey fields "expression" = true → ∀ key ∈ fieldTestKeys, Fields.hasKey fields key = false) := by
    simp [WellKeyed]
  rw [conditionFaults_object, List.append_eq_nil_iff, List.append_eq_nil_iff, keyFaults_eq_nil_iff,
    connectiveFaults_eq_nil joined, testFaults_eq_nil_iff tested, wellKeyed]
  simp only [and_true, and_assoc]

theorem conditionListFaults_eq_nil_iff {path : String} {place : Nat} {items : List Json}
    {conditions : List Condition}
    (read : List.Forall₂ (fun item condition => Condition.decode item = .ok condition) items conditions) :
    conditionListFaults path place items = [] ↔
      (∀ item ∈ items, WellKeyed item) ∧ ∀ condition ∈ conditions, condition.Complete := by
  induction read generalizing place with
  | nil => simp [conditionListFaults]
  | cons first _ ih =>
    rw [conditionListFaults, List.append_eq_nil_iff, conditionFaults_eq_nil_iff first, ih,
      List.forall_mem_cons, List.forall_mem_cons]
    exact and_and_and_comm

/-- The conditions of a rule are looked at if the rule is written as an object. -/
theorem ruleFaults_eq_nil_iff {path : String} {now : Instant} {written : Json} {rule : Rule}
    (read : Rule.decode now written = .ok rule) :
    (written.fields?.bind (fun fields => Fields.get? fields "conditions")).elim [] (conditionsFaults path) = [] ↔
      Ensured written rule := by
  cases written with
  | object fields =>
    have built := (Rule.build_form_eq_ok_iff.1 (Form.build_of_decode_object read)).conditions
    obtain ⟨items, present, each⟩ := Form.build_required_list built
    simp only at present
    simp [Ensured, Json.fields?, present, conditionsFaults, conditionListFaults_eq_nil_iff each]
  | _ => simp [Ensured, Json.fields?]

theorem ruleListFaults_eq_nil_iff {place : Nat} {now : Instant} {items : List Json} {rules : List Rule}
    (read : List.Forall₂ (fun item rule => Rule.decode now item = .ok rule) items rules) :
    ruleListFaults place items = [] ↔ List.Forall₂ Ensured items rules := by
  induction read generalizing place with
  | nil => simp [ruleListFaults]
  | cons first _ ih =>
    rw [ruleListFaults, List.append_eq_nil_iff, ruleFaults_eq_nil_iff first, ih, List.forall₂_cons]

/-- What is ensured of a rule set that is written as an object: every rule in it that is written as an
object is looked at. -/
def EnsuredSet (payload : Json) (ruleSet : RuleSet) : Prop :=
  ∀ fields, payload = .object fields → ∃ items,
    Fields.get? fields "rules" = some (.array items) ∧ List.Forall₂ Ensured items ruleSet.rules

theorem ruleSetFaults_eq_nil_iff {payload : Json} {now : Instant} {ruleSet : RuleSet}
    (read : RuleSet.decode now payload = .ok ruleSet) :
    ruleSetFaults payload = [] ↔ EnsuredSet payload ruleSet := by
  cases payload with
  | object fields =>
    have built := (RuleSet.build_form_eq_ok_iff.1 (Form.build_of_decode_object read)).rules
    obtain ⟨items, present, each⟩ := Form.build_required_list built
    simp only at present
    simp [EnsuredSet, ruleSetFaults, Json.fields?, Json.items?, present, ruleListFaults_eq_nil_iff each]
  | _ => simp [EnsuredSet, ruleSetFaults, Json.fields?]

theorem require_eq_ok_iff {document : Document} {faults : List FieldViolation} :
    require document faults = .ok () ↔ faults = [] := by
  unfold require
  split
  next none => simpa using none
  next some => simpa using some

end Shape

theorem Document.read_eq_ok_iff {α : Type} {document : Document} {decode : Decoder α} {payload : Json}
    {result : α} : document.read decode payload = .ok result ↔ decode payload = .ok result := by
  rw [Document.read]
  cases decode payload <;> simp [Except.mapError]

/-- A rule set is accepted exactly if it can be read, is valid, and no fault is found in its shape. -/
theorem RuleSet.accept_eq_ok_iff {payload : Json} {now : Instant} {ruleSet : RuleSet} :
    RuleSet.accept payload now = .ok ruleSet ↔
      RuleSet.decode now payload = .ok ruleSet ∧ ruleSet.validate = .ok () ∧
        Shape.ruleSetFaults payload = [] := by
  rw [RuleSet.accept, Outcome.check_bind_eq_ok_iff, Outcome.bind_eq_ok_iff, Shape.require_eq_ok_iff]
  simp only [Document.read_eq_ok_iff, Outcome.check_bind_eq_ok_iff]
  constructor
  · rintro ⟨faultless, found, read, valid, same⟩
    cases same
    exact ⟨read, valid, faultless⟩
  · rintro ⟨read, valid, faultless⟩
    exact ⟨faultless, ruleSet, read, valid, rfl⟩

/-- A rule set is accepted exactly if it can be read, is valid, and, as far as it and its rules are written as
objects, every condition has known keys, no key of a field test beside an expression, and a value if its
operator needs one. -/
theorem accepts_iff_objects_ensured {payload : Json} {now : Instant} {ruleSet : RuleSet} :
    RuleSet.accept payload now = .ok ruleSet ↔
      RuleSet.decode now payload = .ok ruleSet ∧ ruleSet.validate = .ok () ∧
        Shape.EnsuredSet payload ruleSet := by
  rw [RuleSet.accept_eq_ok_iff]
  refine and_congr_right (fun read => and_congr_right (fun _ => ?_))
  exact Shape.ruleSetFaults_eq_nil_iff read

/-- A condition without the value that its operator needs, and with a key that no condition has. -/
def untidyCondition : Json :=
  .object [("field", .string "amount"), ("operator", .string "equals"), ("weight", .bool true)]

/-- A rule set with this condition that is written as an array of its fields. -/
def listedPayload : Json :=
  .array [.string "1", .object [("name", .string "listed")],
    .array [.object [("actions", .array [.object [("type", .string "flag")]]),
      ("conditions", .array [untidyCondition]), ("id", .string "a"), ("name", .string "a"),
      ("type", .string "validation")]]]

/-- The rule set that is read from it. -/
def listedSet : RuleSet :=
  ⟨"1", ⟨"listed", none, none, none⟩,
    [⟨"a", "a", none, .validation, 5, true, [⟨.field "amount" .equals .null, .and⟩], [⟨.flag, []⟩],
      ⟨0, 0⟩, ⟨0, 0⟩⟩]⟩

/-- Nobody looks at the conditions of a rule set that is written as an array. -/
theorem listed_rule_set_accepted_untidy :
    RuleSet.accept listedPayload ⟨0, 0⟩ = .ok listedSet ∧ ¬Shape.WellKeyed untidyCondition ∧
      ∃ rule ∈ listedSet.rules, ∃ condition ∈ rule.conditions, ¬condition.Complete := by
  have valid : listedSet.validate = .ok () := Outcome.eq_ok_of_toOption (by decide +kernel)
  refine ⟨RuleSet.accept_eq_ok_iff.2 ⟨rfl, valid, rfl⟩, ?_, _, List.mem_cons_self, _, List.mem_cons_self, ?_⟩
  · rintro ⟨fields, same, known, _⟩
    cases same
    exact absurd (known "weight" (by simp)) (by decide)
  · intro complete
    exact complete "amount" .equals .null rfl rfl rfl

end Verdict
