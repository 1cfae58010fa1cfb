import Verdict.Proofs.Json.Form
import Verdict.Rule.Decoding
/-!
What rules are read from. A rule set, its description, a rule and an action are each built exactly from the
values of their fields, field by field; a condition is built from its connective and its test.
-/

namespace Verdict

open Time (Instant)

/-- The fields that a rule set is built from. -/
structure RuleSet.BuiltFrom (now : Instant) (source : FieldSource) (ruleSet : RuleSet) : Prop where
  version : (Form.required "version" Decoder.text).build source = .ok ruleSet.version
  metadata : (Form.required "metadata" Metadata.decode).build source = .ok ruleSet.metadata
  rules : (Form.required "rules" (Decoder.list (Rule.decode now))).build source = .ok ruleSet.rules

theorem RuleSet.build_form_eq_ok_iff {now : Instant} {source : FieldSource} {ruleSet : RuleSet} :
    (RuleSet.form now).build source = .ok ruleSet ↔ ruleSet.BuiltFrom now source := by
  rw [Form.build_eq_ok_iff_exists]
  simp only [RuleSet.form, Form.exists_build_seq, Form.exists_build_map]
  constructor
  · rintro ⟨version, first, metadata, second, rules, third, rfl⟩
    exact ⟨first, second, third⟩
  · intro built
    exact ⟨_, built.version, _, built.metadata, _, built.rules, rfl⟩

theorem RuleSet.names_form (now : Instant) : (RuleSet.form now).names = ["version", "metadata", "rules"] := rfl

theorem RuleSet.checked_form (now : Instant) : (RuleSet.form now).Checked :=
  (((Form.checked_required _ _).map _).seq (Form.checked_required _ _)).seq (Form.checked_required _ _)

/-- The fields that the description of a rule set is built from. -/
structure Metadata.BuiltFrom (source : FieldSource) (metadata : Metadata) : Prop where
  name : (Form.required "name" Decoder.text).build source = .ok metadata.name
  description : (Form.nullable "description" Decoder.text).build source = .ok metadata.description
  createdBy : (Form.nullable "created_by" Decoder.text).build source = .ok metadata.createdBy
  createdDate : (Form.nullable "created_date" Decoder.text).build source = .ok metadata.createdDate

theorem Metadata.build_form_eq_ok_iff {source : FieldSource} {metadata : Metadata} :
    Metadata.form.build source = .ok metadata ↔ metadata.BuiltFrom source := by
  rw [Form.build_eq_ok_iff_exists]
  simp only [Metadata.form, Form.exists_build_seq, Form.exists_build_map]
  constructor
  · rintro ⟨name, first, description, second, createdBy, third, createdDate, fourth, rfl⟩
    exact ⟨first, second, third, fourth⟩
  · intro built
    exact ⟨_, built.name, _, built.description, _, built.createdBy, _, built.createdDate, rfl⟩

theorem Metadata.names_form :
    Metadata.form.names = ["name", "description", "created_by", "created_date"] := rfl

theorem Metadata.checked_form : Metadata.form.Checked :=
  ((((Form.checked_required _ _).map _).seq (Form.checked_nullable _ _)).seq
    (Form.checked_nullable _ _)).seq (Form.checked_nullable _ _)

/-- The fields that a rule is built from. -/
structure Rule.BuiltFrom (now : Instant) (source : FieldSource) (rule : Rule) : Prop where
  id : (Form.required "id" Decoder.text).build source = .ok rule.id
  name : (Form.required "name" Decoder.text).build source = .ok rule.name
  description : (Form.nullable "description" Decoder.text).build source = .ok rule.description
  kind : (Form.required "type" RuleKind.decode).build source = .ok rule.kind
  priority :
    (Form.optional "priority" Decoder.int32 Rule.defaultPriority).build source = .ok rule.priority
  active : (Form.optional "active" Decoder.boolean true).build source = .ok rule.active
  conditions :
    (Form.required "conditions" (Decoder.list Condition.decode)).build source = .ok rule.conditions
  actions : (Form.required "actions" (Decoder.list Action.decode)).build source = .ok rule.actions
  createdAt : (Form.optional "created_at" Decoder.timestamp now).build source = .ok rule.createdAt
  updatedAt : (Form.optional "updated_at" Decoder.timestamp now).build source = .ok rule.updatedAt

theorem Rule.build_form_eq_ok_iff {now : Instant} {source : FieldSource} {rule : Rule} :
    (Rule.form now).build source = .ok rule ↔ rule.BuiltFrom now source := by
  rw [Form.build_eq_ok_iff_exists]
  simp only [Rule.form, Form.exists_build_seq, Form.exists_build_map]
  constructor
  · rintro ⟨id, first, name, second, description, third, kind, fourth, priority, fifth, active, sixth,
      conditions, seventh, actions, eighth, createdAt, ninth, updatedAt, tenth, rfl⟩
    exact ⟨first, second, third, fourth, fifth, sixth, seventh, eighth, ninth, tenth⟩
  · intro built
    exact ⟨_, built.id, _, built.name, _, built.description, _, built.kind, _, built.priority, _,
      built.active, _, built.conditions, _, built.actions, _, built.createdAt, _, built.updatedAt, rfl⟩

theorem Rule.names_form (now : Instant) :
    (Rule.form now).names =
      ["id", "name", "description", "type", "priority", "active", "conditions", "actions", "created_at",
        "updated_at"] := rfl

theorem Rule.checked_form (now : Instant) : (Rule.form now).Checked :=
  ((((((((((Form.checked_required _ _).map _).seq (Form.checked_required _ _)).seq
    (Form.checked_nullable _ _)).seq (Form.checked_required _ _)).seq
    (Form.checked_optional _ _ _)).seq (Form.checked_optional _ _ _)).seq
    (Form.checked_required _ _)).seq (Form.checked_required _ _)).seq
    (Form.checked_optional _ _ _)).seq (Form.checked_optional _ _ _)

/-- The fields that an action is built from. -/
structure Action.BuiltFrom (source : FieldSource) (action : Action) : Prop where
  kind : (Form.required "type" ActionKind.decode).build source = .ok action.kind
  parameters : (Form.optional "parameters" Decoder.fields []).build source = .ok action.parameters

theorem Action.build_form_eq_ok_iff {source : FieldSource} {action : Action} :
    Action.form.build source = .ok action ↔ action.BuiltFrom source := by
  rw [Form.build_eq_ok_iff_exists]
  simp only [Action.form, Form.exists_build_seq, Form.exists_build_map]
  constructor
  · rintro ⟨kind, first, parameters, second, rfl⟩
    exact ⟨first, second⟩
  · intro built
    exact ⟨_, built.kind, _, built.parameters, rfl⟩

theorem Action.names_form : Action.form.names = ["type", "parameters"] := rfl

theorem Action.checked_form : Action.form.Checked :=
  ((Form.checked_required _ _).map _).seq (Form.checked_optional _ _ _)

theorem ConditionTest.ofFields?_of_field {fields : Fields} {path : String} {operator : Operator}
    (noExpression : fields.get? "expression" = none) (foundPath : fields.get? "field" = some (.string path))
    (foundOperator : (fields.get? "operator").map Operator.decode = some (.ok operator)) :
    ConditionTest.ofFields? fields = some (.field path operator ((fields.get? "value").getD .null)) := by
  simp only [ConditionTest.ofFields?, noExpression, foundPath, foundOperator]

theorem Condition.decode_object (fields : Fields) :
    Condition.decode (.object fields) =
      (fields.get? "logical_operator").elim (.ok Connective.and) Connective.decode >>= fun connective =>
        (ConditionTest.ofFields? fields).elim (.error (.noForm "ConditionTest"))
          (fun test => .ok ⟨test, connective⟩) := by
  rw [Condition.decode]
  cases fields.get? "logical_operator" <;> cases ConditionTest.ofFields? fields <;> rfl

/-- A condition is read from an object with a proper connective, if any, and the fields of a test. -/
theorem Condition.decode_eq_ok_iff {written : Json} {condition : Condition} :
    Condition.decode written = .ok condition ↔
      ∃ fields, written = .object fields ∧
        (Fields.get? fields "logical_operator").elim (.ok Connective.and) Connective.decode =
          .ok condition.connective ∧
        ConditionTest.ofFields? fields = some condition.test := by
  constructor
  · intro read
    cases written with
    | object fields =>
      rw [decode_object, Outcome.bind_eq_ok_iff] at read
      obtain ⟨connective, joined, built⟩ := read
      cases tested : ConditionTest.ofFields? fields with
      | none => simp [tested] at built
      | some test =>
        obtain rfl : Condition.mk test connective = condition := by simpa [tested] using built
        exact ⟨fields, rfl, joined, tested⟩
    | _ => simp [Condition.decode] at read
  · rintro ⟨fields, rfl, joined, tested⟩
    rw [decode_object, Outcome.bind_eq_ok_iff]
    exact ⟨condition.connective, joined, by rw [tested]; rfl⟩

end Verdict
