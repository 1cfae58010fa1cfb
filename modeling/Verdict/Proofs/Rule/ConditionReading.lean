import Verdict.Proofs.Json.Replacement
import Verdict.Proofs.Rule.RoundTrip
/-!
What is read from conditions in which no fault was found. The look at their shape and the reading of them agree on
every value: conditions without fault are read, as expressions where there is a key for one, and are written as they
stood, with what was left out filled in; and nothing that goes wrong when the rule or the patch around them is read
is on their account.
-/

namespace Verdict

open Time (Instant)

/-- A named case that is written as an object with its name as the one key, written as its name. -/
def Json.asName : Json → Json
  | .object [(name, .null)] => .string name
  | value => value

theorem Decoder.asName_of_variant {α : Type} {names : List (String × α)} {nameOf : α → String} {written : Json}
    {value : α} (named : ∀ entry ∈ names, nameOf entry.2 = entry.1)
    (read : Decoder.variant names none written = .ok value) : written.asName = .string (nameOf value) := by
  have known {name : String} (found : Decoder.named names none name = .ok value) : nameOf value = name := by
    unfold Decoder.named at found
    cases listed : names.lookup name with
    | none => simp [listed] at found
    | some other =>
      rw [listed] at found
      obtain rfl := Except.ok.inj found
      obtain ⟨before, after, rfl, _⟩ := List.lookup_eq_some_iff.1 listed
      exact named (name, other) (by simp)
  unfold Decoder.variant at read
  split at read
  next name => exact congrArg Json.string (known read).symm
  next name payload =>
    obtain ⟨result, found, rest⟩ := Outcome.bind_eq_ok_iff.1 read
    cases payload with
    | null => exact congrArg Json.string (known (found.trans rest)).symm
    | _ => cases rest
  next => cases read
  next => cases read

theorem Operator.asName_of_decode {written : Json} {operator : Operator}
    (read : Operator.decode written = .ok operator) : written.asName = .string operator.name :=
  Decoder.asName_of_variant (by decide) read

theorem Connective.asName_of_decode {written : Json} {connective : Connective}
    (read : Connective.decode written = .ok connective) : written.asName = .string connective.name :=
  Decoder.asName_of_variant (by decide) read

namespace Shape

/-- The fields of a condition as they are written when nothing is left out: names of cases as strings, AND for a
missing connective, and null for the missing value of a field test. -/
def canonicalFields (fields : Fields) : Fields :=
  let named := (fields.modify "operator" Json.asName).modify "logical_operator" Json.asName
  let joined := named.withDefault "logical_operator" (.string Connective.and.name)
  if fields.hasKey "expression" then joined else joined.withDefault "value" .null

/-- A condition as it is written when nothing is left out. -/
def canonical : Json → Json
  | .object fields => .object (canonicalFields fields)
  | value => value

/-- The value is an object with a key for an expression. -/
def HasExpression (written : Json) : Prop :=
  ∃ fields, written = .object fields ∧ Fields.hasKey fields "expression" = true

/-- What a condition without fault is made of: known keys, a connective that can be read, and a test, which is an
expression by itself if there is a key for one. -/
structure WellFormed (fields : Fields) (condition : Condition) : Prop where
  known : ∀ key ∈ fields.map Prod.fst, key ∈ conditionKeys
  joined : (fields.get? "logical_operator").elim (.ok Connective.and) Connective.decode = .ok condition.connective
  tested : (∃ source, fields.get? "expression" = some (.string source) ∧
      (∀ key ∈ fieldTestKeys, fields.hasKey key = false) ∧ condition.test = .expression source) ∨
    fields.get? "expression" = none ∧ ∃ path operator, fields.get? "field" = some (.string path) ∧
      (fields.get? "operator").map Operator.decode = some (.ok operator) ∧
      condition.test = .field path operator ((fields.get? "value").getD .null)

theorem exists_connective_of_no_faults {path : String} {fields : Fields} (clean : connectiveFaults path fields = []) :
    ∃ connective, (fields.get? "logical_operator").elim (.ok Connective.and) Connective.decode = .ok connective := by
  rw [connectiveFaults, Validation.report_eq_nil_iff] at clean
  cases found : fields.get? "logical_operator" with
  | none => exact ⟨.and, rfl⟩
  | some value =>
    rw [found] at clean
    have accepted : (Connective.decode.refusal value) = none := by simpa [accepts] using clean
    exact Decoder.refusal_eq_none_iff.1 accepted

/-- A field test without fault has a path and an operator. -/
theorem exists_field_of_no_faults {path : String} {fields : Fields} (clean : fieldTestFaults path fields = []) :
    ∃ subject operator, fields.get? "field" = some (.string subject) ∧
      (fields.get? "operator").map Operator.decode = some (.ok operator) := by
  rw [fieldTestFaults, List.append_eq_nil_iff, Validation.report_eq_nil_iff] at clean
  obtain ⟨hasPath, hasOperator⟩ := clean
  obtain ⟨subject, foundPath⟩ : ∃ subject, fields.get? "field" = some (.string subject) := by
    cases found : fields.get? "field" with
    | none => simp [found] at hasPath
    | some value => cases value <;> simp [found, Json.isString] at hasPath ⊢
  split at hasOperator
  next operator found => exact ⟨subject, operator, foundPath, found⟩
  next => cases hasOperator

/-- Whatever has no fault is made as a condition is. -/
theorem exists_wellFormed_of_no_faults {path : String} {written : Json} (clean : conditionFaults path written = []) :
    ∃ fields condition, written = .object fields ∧ WellFormed fields condition := by
  cases written with
  | object fields =>
    rw [conditionFaults_object, List.append_eq_nil_iff, List.append_eq_nil_iff, keyFaults_eq_nil_iff] at clean
    obtain ⟨⟨known, joins⟩, tests⟩ := clean
    obtain ⟨connective, joined⟩ := exists_connective_of_no_faults joins
    cases found : Fields.get? fields "expression" with
    | none =>
      rw [found] at tests
      obtain ⟨subject, operator, foundPath, foundOperator⟩ := exists_field_of_no_faults tests
      exact ⟨fields, ⟨.field subject operator ((Fields.get? fields "value").getD .null), connective⟩, rfl, known, joined,
        .inr ⟨found, subject, operator, foundPath, foundOperator, rfl⟩⟩
    | some value =>
      rw [found, Option.elim_some] at tests
      obtain ⟨source, rfl⟩ : ∃ source, value = .string source := by
        by_contra noText
        exact expressionFaults_ne_nil (not_exists.1 noText) tests
      exact ⟨fields, ⟨.expression source, connective⟩, rfl, known, joined,
        .inl ⟨source, found, expressionFaults_eq_nil_iff.1 tests, rfl⟩⟩
  | _ => simp [conditionFaults] at clean

namespace WellFormed

variable {fields : Fields} {condition : Condition}

theorem decode_eq_ok (formed : WellFormed fields condition) : Condition.decode (.object fields) = .ok condition := by
  refine Condition.decode_eq_ok_iff.2 ⟨fields, rfl, formed.joined, ?_⟩
  rcases formed.tested with ⟨source, found, _, test⟩ | ⟨noExpression, subject, operator, foundPath, foundOperator, test⟩
  · rw [ConditionTest.ofFields?, found, test]
  · rw [ConditionTest.ofFields?_of_field noExpression foundPath foundOperator, test]

/-- The kind of test is told by the key of an expression alone. -/
theorem source?_isSome_iff (formed : WellFormed fields condition) :
    condition.source?.isSome = true ↔ fields.hasKey "expression" = true := by
  rcases formed.tested with ⟨source, found, _, test⟩ | ⟨noExpression, subject, operator, _, _, test⟩
  · simp [Condition.source?, test, Fields.hasKey, found]
  · simp [Condition.source?, test, Fields.hasKey, noExpression]

theorem get?_of_unknown (formed : WellFormed fields condition) {key : String} (unknown : key ∉ conditionKeys) :
    fields.get? key = none := by
  rw [← Option.not_isSome_iff_eq_none, Fields.get?_isSome_iff]
  exact fun member => unknown (formed.known key member)

theorem get?_connective (formed : WellFormed fields condition) :
    ((fields.get? "logical_operator").map Json.asName).getD (.string Connective.and.name) =
      .string condition.connective.name := by
  have joined := formed.joined
  cases found : fields.get? "logical_operator" with
  | none =>
    rw [found] at joined
    rw [← Except.ok.inj joined]
    rfl
  | some value =>
    rw [found] at joined
    exact Connective.asName_of_decode joined

end WellFormed

/-- What stands under each key once nothing is left out. -/
theorem get?_canonicalFields (fields : Fields) (key : String) : (canonicalFields fields).get? key =
    if key = "value" ∧ fields.hasKey "expression" = false then some ((fields.get? key).getD .null)
    else if key = "logical_operator" then
      some (((fields.get? key).map Json.asName).getD (.string Connective.and.name))
    else if key = "operator" then (fields.get? key).map Json.asName
    else fields.get? key := by
  unfold canonicalFields
  cases fields.hasKey "expression" with
  | true =>
    simp only [if_true, Bool.true_eq_false, and_false, if_false, Fields.get?_withDefault, Fields.get?_modify]
    split <;> simp_all
  | false =>
    simp only [Bool.false_eq_true, if_false, and_true, Fields.get?_withDefault, Fields.get?_modify]
    split <;> split <;> simp_all

theorem forall_conditionKeys {holds : String → Prop} : (∀ key ∈ conditionKeys, holds key) ↔
    holds "field" ∧ holds "operator" ∧ holds "value" ∧ holds "logical_operator" ∧ holds "expression" := by
  simp [conditionKeys]

theorem ascending_canonicalFields {fields : Fields} (ascending : fields.Ascending) :
    (canonicalFields fields).Ascending := by
  have joined := ((ascending.modify "operator" Json.asName).modify "logical_operator" Json.asName).withDefault
    "logical_operator" (.string Connective.and.name)
  unfold canonicalFields
  split
  · exact joined
  · exact joined.withDefault "value" .null

namespace WellFormed

variable {fields : Fields} {condition : Condition}

theorem get?_canonicalFields_of_unknown (formed : WellFormed fields condition) {key : String}
    (unknown : key ∉ conditionKeys) : (canonicalFields fields).get? key = none := by
  have different {other : String} (known : other ∈ conditionKeys) : key ≠ other := fun same => unknown (same ▸ known)
  rw [get?_canonicalFields, if_neg (fun same => different (by decide) same.1), if_neg (different (by decide)),
    if_neg (different (by decide)), formed.get?_of_unknown unknown]

/-- It is enough to look at the keys that conditions have. -/
theorem get?_eq_canonicalFields (formed : WellFormed fields condition) {written : Fields}
    (known : ∀ key ∈ written.map Prod.fst, key ∈ conditionKeys)
    (same : ∀ key ∈ conditionKeys, written.get? key = (canonicalFields fields).get? key) (key : String) :
    written.get? key = (canonicalFields fields).get? key := by
  by_cases member : key ∈ conditionKeys
  · exact same key member
  · have absent : written.get? key = none := by
      rw [← Option.not_isSome_iff_eq_none, Fields.get?_isSome_iff]
      exact fun written => member (known key written)
    rw [absent, formed.get?_canonicalFields_of_unknown member]

/-- Under each key a condition is written with what stood there, or with what was left out. -/
theorem exists_written (formed : WellFormed fields condition) :
    ∃ written : Fields, condition.toJson = .object written ∧ written.Ascending ∧
      ∀ key, written.get? key = (canonicalFields fields).get? key := by
  have joined := formed.get?_connective
  rcases formed.tested with
    ⟨source, found, alone, test⟩ | ⟨noExpression, subject, operator, foundPath, foundOperator, test⟩
  · have absent (key : String) (member : key ∈ fieldTestKeys) : fields.get? key = none :=
      Option.not_isSome_iff_eq_none.1 (Bool.eq_false_iff.1 (alone key member))
    have inOrder : ["expression", "logical_operator"].Pairwise (· < ·) := by decide
    have known : ∀ key ∈ ["expression", "logical_operator"], key ∈ conditionKeys := by decide
    refine ⟨[("expression", .string source), ("logical_operator", .string condition.connective.name)],
      by rw [Condition.toJson, test], List.pairwise_map.1 inOrder,
      formed.get?_eq_canonicalFields known (forall_conditionKeys.2 ⟨?field, ?operator, ?value, ?connective, ?source⟩)⟩
    case field => simp [get?_canonicalFields, Fields.get?, absent "field" (by decide)]
    case operator => simp [get?_canonicalFields, Fields.get?, absent "operator" (by decide)]
    case value => simp [get?_canonicalFields, Fields.get?, absent "value" (by decide), Fields.hasKey, found]
    case connective => simp [get?_canonicalFields, Fields.get?, joined]
    case source => simp [get?_canonicalFields, Fields.get?, found]
  · obtain ⟨named, stands, read⟩ := Option.map_eq_some_iff.1 foundOperator
    have asName := Operator.asName_of_decode read
    have inOrder : ["field", "logical_operator", "operator", "value"].Pairwise (· < ·) := by decide
    have known : ∀ key ∈ ["field", "logical_operator", "operator", "value"], key ∈ conditionKeys := by decide
    refine ⟨[("field", .string subject), ("logical_operator", .string condition.connective.name),
      ("operator", .string operator.name), ("value", (fields.get? "value").getD .null)],
      by rw [Condition.toJson, test], List.pairwise_map.1 inOrder,
      formed.get?_eq_canonicalFields known (forall_conditionKeys.2 ⟨?field, ?operator, ?value, ?connective, ?source⟩)⟩
    case field => simp [get?_canonicalFields, Fields.get?, foundPath]
    case operator => simp [get?_canonicalFields, Fields.get?, stands, asName]
    case value => simp [get?_canonicalFields, Fields.get?, Fields.hasKey, noExpression]
    case connective => simp [get?_canonicalFields, Fields.get?, joined]
    case source => simp [get?_canonicalFields, Fields.get?, noExpression]

end WellFormed

/-- How a condition that was read stands to the item of the list that it was read from. -/
structure ReadFrom (written : Json) (condition : Condition) : Prop where
  read : Condition.decode written = .ok condition
  kind : condition.source?.isSome = true ↔ HasExpression written
  fields : ∃ old new : Fields, written = .object old ∧ condition.toJson = .object new ∧
    ∀ key, new.get? key = (canonicalFields old).get? key
  whole : written.Ordered → condition.toJson = canonical written

theorem readFrom_of_no_faults {path : String} {written : Json} (clean : conditionFaults path written = []) :
    ∃ condition, ReadFrom written condition := by
  obtain ⟨fields, condition, rfl, formed⟩ := exists_wellFormed_of_no_faults clean
  obtain ⟨new, writes, ascending, same⟩ := formed.exists_written
  refine ⟨condition, ?read, ?kind, ?fields, ?whole⟩
  case read => exact formed.decode_eq_ok
  case kind => simp [HasExpression, formed.source?_isSome_iff]
  case fields => exact ⟨fields, new, rfl, writes, same⟩
  case whole =>
    intro ordered
    have ordered : Fields.Ordered fields := ordered
    rw [writes, canonical, ascending.ext (ascending_canonicalFields ordered.ascending) same]

theorem exists_conditions_of_no_faults {path : String} {place : Nat} {items : List Json}
    (clean : conditionListFaults path place items = []) : ∃ conditions, List.Forall₂ ReadFrom items conditions := by
  induction items generalizing place with
  | nil => exact ⟨[], .nil⟩
  | cons item rest ih =>
    obtain ⟨first, others⟩ := List.append_eq_nil_iff.1 clean
    obtain ⟨condition, read⟩ := readFrom_of_no_faults first
    obtain ⟨conditions, each⟩ := ih others
    exact ⟨condition :: conditions, .cons read each⟩

end Shape

open Outcome (FailAlike)

section

variable {left right : FieldSource}

theorem Rule.failsAlike_form (now : Instant) (agree : left.AgreesBut right "conditions")
    (conditions : (Form.required "conditions" (Decoder.list Condition.decode)).FailsAlike left right) :
    (Rule.form now).FailsAlike left right :=
  ((((((((((Form.FailsAlike.required agree (by decide)).map _).seq (.required agree (by decide))).seq
    (.optional agree (by decide))).seq (.required agree (by decide))).seq (.optional agree (by decide))).seq
    (.optional agree (by decide))).seq conditions).seq (.required agree (by decide))).seq
    (.optional agree (by decide))).seq (.optional agree (by decide))

theorem RulePatch.failsAlike_form (agree : left.AgreesBut right "conditions")
    (conditions : (Form.nullable "conditions" (Decoder.list Condition.decode)).FailsAlike left right) :
    RulePatch.form.FailsAlike left right :=
  (((((((Form.FailsAlike.optional agree (by decide)).map _).seq (.optional agree (by decide))).seq
    (.optional agree (by decide))).seq (.optional agree (by decide))).seq (.optional agree (by decide))).seq
    conditions).seq (.optional agree (by decide))

end

/-- Conditions in an object can be exchanged for none, and the object still fails to be read for the same reasons, if
it fails. -/
def Blameless {α : Type} (decode : Decoder α) (conditions : Json) : Prop :=
  ∀ fields : Fields, (fields.map Prod.fst).Nodup → fields.get? "conditions" = some conditions →
    FailAlike (decode (.object fields)) (decode (.object (fields.modify "conditions" (fun _ => .array []))))

/-- The check of conditions passes those that can be read, and those that are put in their place. -/
theorem Blameless.of_form {α β : Type} (form : Form α) {title : String} {closed : Bool} {decode : Decoder β}
    {conditions : Json} {value none : β} (checks : form.checks.lookup "conditions" = some decode.refusal)
    (read : decode conditions = .ok value) (empty : decode (.array []) = .ok none)
    (alike : ∀ {left right : FieldSource}, left.AgreesBut right "conditions" →
      left.find "conditions" = some conditions → right.find "conditions" = some (.array []) →
        form.FailsAlike left right) : Blameless (form.decode title closed) conditions := by
  intro fields distinct found
  refine Form.decode_modify_failAlike (fun refusal looked => ?_) (alike (Fields.agreesBut_modify fields _ _) found ?_)
  · cases checks.symm.trans looked
    refine ⟨Decoder.refusal_eq_none_iff.2 ⟨none, empty⟩, fun entry member same => ?_⟩
    have stands := Fields.get?_of_mem distinct member
    rw [same, found] at stands
    cases stands
    exact Decoder.refusal_eq_none_iff.2 ⟨value, read⟩
  · simp only [Fields.get?_modify, found]
    rfl

theorem Rule.blameless_of_read {value : Json} {conditions : List Condition}
    (read : Decoder.list Condition.decode value = .ok conditions) (now : Instant) :
    Blameless (Rule.decode now) value := by
  refine .of_form (Rule.form now) rfl read rfl (fun agree found exchanged => ?_)
  exact Rule.failsAlike_form now agree (FailAlike.of_ok (Form.build_required_of_find found read)
    (Form.build_required_of_find exchanged rfl))

theorem RulePatch.blameless_of_read {value : Json} {conditions : List Condition}
    (read : Decoder.list Condition.decode value = .ok conditions) : Blameless RulePatch.decode value := by
  have nullable : Decoder.nullable (Decoder.list Condition.decode) value = .ok (some conditions) := by
    obtain ⟨items, rfl, _⟩ := Decoder.list_eq_ok_iff.1 read
    exact congrArg (Except.map some) read
  refine .of_form RulePatch.form rfl nullable rfl (fun agree found exchanged => ?_)
  exact RulePatch.failsAlike_form agree (FailAlike.of_ok (Form.build_optional_of_find found nullable)
    (Form.build_optional_of_find exchanged rfl))

namespace Shape

/-- What becomes of a list of conditions in which no fault was found. -/
structure Accepted (items : List Json) (conditions : List Condition) : Prop where
  read : Decoder.list Condition.decode (.array items) = .ok conditions
  each : List.Forall₂ ReadFrom items conditions
  whole : (Json.array items).Ordered → conditions.map Condition.toJson = items.map canonical
  rule : ∀ now, Blameless (Rule.decode now) (.array items)
  patch : Blameless RulePatch.decode (.array items)

theorem whole_of_forall₂ {items : List Json} {conditions : List Condition}
    (each : List.Forall₂ ReadFrom items conditions) (ordered : ∀ item ∈ items, item.Ordered) :
    conditions.map Condition.toJson = items.map canonical := by
  induction each with
  | nil => rfl
  | cons first _ ih =>
    obtain ⟨firstOrdered, ordered⟩ := List.forall_mem_cons.1 ordered
    rw [List.map_cons, List.map_cons, first.whole firstOrdered, ih ordered]

/-- Whatever list of conditions has no fault is read, each as the kind of test that its keys tell, and is written as
it stood with nothing left out; and if the rule or the patch that it stands in cannot be read, the conditions are not
to blame. -/
theorem faultless_conditions_accepted {path : String} {value : Json} (clean : conditionsFaults path value = []) :
    ∃ items conditions, value = .array items ∧ Accepted items conditions := by
  cases value with
  | array items =>
    obtain ⟨conditions, each⟩ := exists_conditions_of_no_faults clean
    have read : Decoder.list Condition.decode (.array items) = .ok conditions :=
      Decoder.list_eq_ok_iff.2 ⟨items, rfl, each.imp (fun _ _ reads => reads.read)⟩
    refine ⟨items, conditions, rfl, ?_⟩
    constructor
    case read => exact read
    case each => exact each
    case whole =>
      intro ordered
      have inOrder : ∀ item ∈ items, item.Ordered := by
        cases ordered with
        | array each => exact each
      exact whole_of_forall₂ each inOrder
    case rule => exact Rule.blameless_of_read read
    case patch => exact RulePatch.blameless_of_read read
  | _ => simp [conditionsFaults] at clean

/-- An expression, a field test whose operator needs no value, and one whose operator does; two names of cases are
written as objects. -/
def mixedConditions : Json :=
  .array [.object [("expression", .string "amount > 5"), ("logical_operator", .object [("OR", .null)])],
    .object [("field", .string "vendor"), ("operator", .object [("not_exists", .null)])],
    .object [("field", .string "urgency"), ("operator", .string "in"), ("value", .array [.string "High"])]]

/-- The conditions that are read from them. -/
def mixedConditionsRead : List Condition :=
  [⟨.expression "amount > 5", .or⟩, ⟨.field "vendor" .notExists .null, .and⟩,
    ⟨.field "urgency" .isIn (.array [.string "High"]), .and⟩]

theorem mixed_conditions_accepted : conditionsFaults "conditions" mixedConditions = [] ∧
    ∃ items, mixedConditions = .array items ∧ Accepted items mixedConditionsRead := by
  have clean : conditionsFaults "conditions" mixedConditions = [] := by decide +kernel
  obtain ⟨items, conditions, same, accepted⟩ := faultless_conditions_accepted clean
  cases same
  obtain rfl : conditions = mixedConditionsRead := Except.ok.inj (accepted.read.symm.trans rfl)
  exact ⟨clean, _, rfl, accepted⟩

end Shape

end Verdict
