import Verdict.Rule.Encoding
import Verdict.Proofs.Rule.Shape
/-!
Rule sets that are written are read back. Every part of a rule set is written as an object with distinct and
known keys, and reading each field gives back what was written; a valid rule set with complete conditions is
also accepted again.
-/

namespace Verdict

open Time (Instant)

theorem Operator.decode_name (operator : Operator) : Operator.decode (.string operator.name) = .ok operator := by
  cases operator <;> exact Decoder.variant_string (by decide) none

theorem Connective.decode_name (connective : Connective) :
    Connective.decode (.string connective.name) = .ok connective := by
  cases connective <;> exact Decoder.variant_string (by decide) none

theorem RuleKind.decode_name (kind : RuleKind) : RuleKind.decode (.string kind.name) = .ok kind := by
  cases kind <;> exact Decoder.variant_string (by decide) none

/-- The name of the unknown kind is not known, and so it is read as the unknown kind. -/
theorem ActionKind.decode_name (kind : ActionKind) : ActionKind.decode (.string kind.name) = .ok kind := by
  cases kind with
  | unknown => rfl
  | _ => exact Decoder.variant_string (by decide) _

theorem Condition.decode_toJson (condition : Condition) :
    Condition.decode condition.toJson = .ok condition := by
  obtain ⟨test, connective⟩ := condition
  refine Condition.decode_eq_ok_iff.2 ?_
  cases test with
  | expression source => exact ⟨_, rfl, connective.decode_name, rfl⟩
  | field path operator expected =>
    -- No expression is written beside the field, so the test is read from its path and its operator.
    refine ⟨_, rfl, connective.decode_name, ?_⟩
    exact ConditionTest.ofFields?_of_field rfl rfl (congrArg some operator.decode_name)

theorem Action.decode_toJson (action : Action) : Action.decode action.toJson = .ok action := by
  have built : action.BuiltFrom ⟨Fields.get? [("parameters", .object action.parameters),
      ("type", .string action.kind.name)], .missingField⟩ :=
    { kind := Form.build_required_of_find rfl action.kind.decode_name
      parameters := Form.build_optional_of_find rfl rfl }
  exact Form.decode_object_of_build Action.checked_form (by simp) (by simp [Action.names_form])
    (Action.build_form_eq_ok_iff.2 built)

theorem Metadata.decode_toJson (metadata : Metadata) : Metadata.decode metadata.toJson = .ok metadata := by
  obtain ⟨name, description, createdBy, createdDate⟩ := metadata
  refine Form.decode_object_of_build Metadata.checked_form ?distinct ?known
    (Metadata.build_form_eq_ok_iff.2 ?built)
  case distinct => cases description <;> cases createdBy <;> cases createdDate <;> simp [optionalField]
  case known =>
    cases description <;> cases createdBy <;> cases createdDate <;>
      simp [optionalField, Metadata.names_form]
  case built => cases description <;> cases createdBy <;> cases createdDate <;> exact ⟨rfl, rfl, rfl, rfl⟩

/-- The timestamps of a rule are read back from their texts. -/
def Rule.TimestampsReadBack (rule : Rule) : Prop :=
  Time.readTimestamp rule.createdAt.text = .ok rule.createdAt ∧
    Time.readTimestamp rule.updatedAt.text = .ok rule.updatedAt

theorem Decoder.timestamp_string {moment : Instant} (readBack : Time.readTimestamp moment.text = .ok moment) :
    Decoder.timestamp (.string moment.text) = .ok moment := by
  rw [Decoder.timestamp, readBack]
  rfl

theorem Rule.decode_toJson {rule : Rule} (stamped : rule.TimestampsReadBack) (now : Instant) :
    Rule.decode now rule.toJson = .ok rule := by
  obtain ⟨id, name, description, kind, priority, active, conditions, actions, createdAt, updatedAt⟩ := rule
  obtain ⟨created, updated⟩ := stamped
  have eachCondition := Decoder.list_map_eq_ok (fun condition (_ : condition ∈ conditions) =>
    condition.decode_toJson)
  have eachAction := Decoder.list_map_eq_ok (fun action (_ : action ∈ actions) => action.decode_toJson)
  refine Form.decode_object_of_build (Rule.checked_form now) ?distinct ?known
    (Rule.build_form_eq_ok_iff.2 ?built)
  case distinct => cases description <;> simp [optionalField]
  case known => cases description <;> simp [optionalField, Rule.names_form]
  case built =>
    -- The description alone may be left out; the other fields are found on either side of it.
    cases description <;> exact
      { id := rfl
        name := rfl
        description := rfl
        kind := Form.build_required_of_find rfl kind.decode_name
        priority := Form.build_optional_of_find rfl (Decoder.int32_ofInt priority)
        active := rfl
        conditions := Form.build_required_of_find rfl eachCondition
        actions := Form.build_required_of_find rfl eachAction
        createdAt := Form.build_optional_of_find rfl (Decoder.timestamp_string created)
        updatedAt := Form.build_optional_of_find rfl (Decoder.timestamp_string updated) }

theorem RuleSet.decode_toJson {ruleSet : RuleSet}
    (stamped : ∀ rule ∈ ruleSet.rules, rule.TimestampsReadBack) (now : Instant) :
    RuleSet.decode now ruleSet.toJson = .ok ruleSet := by
  have rules := Decoder.list_map_eq_ok (fun rule member => Rule.decode_toJson (stamped rule member) now)
  have built : ruleSet.BuiltFrom now ⟨Fields.get? [("metadata", ruleSet.metadata.toJson),
      ("rules", .array (ruleSet.rules.map Rule.toJson)), ("version", .string ruleSet.version)],
      .missingField⟩ :=
    { version := rfl
      metadata := Form.build_required_of_find rfl ruleSet.metadata.decode_toJson
      rules := Form.build_required_of_find rfl rules }
  exact Form.decode_object_of_build (RuleSet.checked_form now) (by simp) (by simp [RuleSet.names_form])
    (RuleSet.build_form_eq_ok_iff.2 built)

/-- Conditions are written with the keys of their own test only. -/
theorem Condition.wellKeyed_toJson (condition : Condition) : Shape.WellKeyed condition.toJson := by
  obtain ⟨test, connective⟩ := condition
  cases test with
  | expression source =>
    have noFieldTest : ∀ key ∈ Shape.fieldTestKeys,
        Fields.hasKey [("expression", .string source), ("logical_operator", .string connective.name)] key =
          false :=
      List.forall_mem_cons.2 ⟨rfl, List.forall_mem_cons.2 ⟨rfl, List.forall_mem_singleton.2 rfl⟩⟩
    exact ⟨_, rfl, by simp [Shape.conditionKeys], fun _ => noFieldTest⟩
  | field path operator expected =>
    exact ⟨_, rfl, by simp [Shape.conditionKeys], fun beside => absurd beside Bool.false_ne_true⟩

theorem Rule.ensured_toJson {rule : Rule} (complete : ∀ condition ∈ rule.conditions, condition.Complete) :
    Shape.Ensured rule.toJson rule := by
  rintro fields same
  cases same
  exact ⟨rule.conditions.map Condition.toJson, rfl,
    List.forall_mem_map.2 (fun condition _ => condition.wellKeyed_toJson), complete⟩

theorem RuleSet.ensuredSet_toJson {ruleSet : RuleSet}
    (complete : ∀ rule ∈ ruleSet.rules, ∀ condition ∈ rule.conditions, condition.Complete) :
    Shape.EnsuredSet ruleSet.toJson ruleSet := by
  rintro fields same
  cases same
  refine ⟨ruleSet.rules.map Rule.toJson, rfl, ?_⟩
  exact List.forall₂_map_left_iff.2
    (List.forall₂_same.2 (fun rule member => Rule.ensured_toJson (complete rule member)))

/-- A rule set whose timestamps are read back from their texts is read back as a whole, whatever its texts,
values, flags and conditions are; if it is valid and its conditions are complete, it is accepted again. -/
theorem written_rule_set_reads_back {ruleSet : RuleSet}
    (stamped : ∀ rule ∈ ruleSet.rules, rule.TimestampsReadBack) (now : Instant) :
    RuleSet.decode now ruleSet.toJson = .ok ruleSet ∧
      (ruleSet.validate = .ok () →
        (∀ rule ∈ ruleSet.rules, ∀ condition ∈ rule.conditions, condition.Complete) →
          RuleSet.accept ruleSet.toJson now = .ok ruleSet) := by
  have read := RuleSet.decode_toJson stamped now
  refine ⟨read, fun valid complete => RuleSet.accept_eq_ok_iff.2 ⟨read, valid, ?_⟩⟩
  exact (Shape.ruleSetFaults_eq_nil_iff read).2 (RuleSet.ensuredSet_toJson complete)

/-- A rule set with a field test, an expression, a description, parameters and times of its own. -/
def reviewSet : RuleSet :=
  ⟨"2", ⟨"review", none, some "desk", none⟩,
    [⟨"a", "limit", some "large sums", .validation, 3, false,
      [⟨.field "amount" .isIn (.array [.bool false, .null]), .and⟩,
        ⟨.expression "amount > 3", .or⟩],
      [⟨.flag, [("level", .array [.bool true])]⟩], ⟨1700000000, 0⟩, ⟨1700000000, 500000000⟩⟩]⟩

theorem review_set_reads_back :
    (∀ rule ∈ reviewSet.rules, rule.TimestampsReadBack) ∧ reviewSet.validate = .ok () ∧
      RuleSet.decode ⟨0, 0⟩ reviewSet.toJson = .ok reviewSet ∧
      RuleSet.accept reviewSet.toJson ⟨0, 0⟩ = .ok reviewSet := by
  have stamped : ∀ rule ∈ reviewSet.rules, rule.TimestampsReadBack := by
    refine List.forall_mem_singleton.2 ⟨?_, ?_⟩
    · decide +kernel
    · decide +kernel
  have valid : reviewSet.validate = .ok () := Outcome.eq_ok_of_toOption (by decide +kernel)
  have complete : ∀ rule ∈ reviewSet.rules, ∀ condition ∈ rule.conditions, condition.Complete := by
    refine List.forall_mem_singleton.2 (List.forall_mem_cons.2 ⟨?_, List.forall_mem_singleton.2 ?_⟩)
    · intro path operator expected same _ absent
      cases same
      cases absent
    · intro path operator expected same
      cases same
  have readBack := written_rule_set_reads_back stamped ⟨0, 0⟩
  exact ⟨stamped, valid, readBack.1, readBack.2 valid complete⟩

end Verdict
