import Verdict.Rule.Basic
import Verdict.Json.Content
/-!
Rules as JSON. Keys are written in ascending order and absent descriptions are left out. What rules hand to the writer
names their fields in the order in which they are declared.
-/

namespace Verdict

def optionalField (key : String) (value : Option Json) : Fields :=
  (value.map (fun present => (key, present))).toList

def Condition.toJson (condition : Condition) : Json :=
  match condition.test with
  | .expression source =>
    .object [("expression", .string source), ("logical_operator", .string condition.connective.name)]
  | .field path operator expected =>
    .object
      [("field", .string path), ("logical_operator", .string condition.connective.name),
        ("operator", .string operator.name), ("value", expected)]

/-- A condition hands on the fields of its test in place of the test. -/
def Condition.content (condition : Condition) : Content :=
  .fields
    [(none,
        match condition.test with
        | .expression source => .fields [(some "expression", .text source)]
        | .field path operator expected =>
          .fields
            [(some "field", .text path), (some "operator", .text operator.name), (some "value", .value expected)]),
      (some "logical_operator", .text condition.connective.name)]

def Action.toJson (action : Action) : Json :=
  .object [("parameters", .object action.parameters), ("type", .string action.kind.name)]

def Action.content (action : Action) : Content :=
  .fields [(some "type", .text action.kind.name), (some "parameters", .value (.object action.parameters))]

def Rule.toJson (rule : Rule) : Json :=
  .object
    ([("actions", .array (rule.actions.map Action.toJson)), ("active", .bool rule.active),
        ("conditions", .array (rule.conditions.map Condition.toJson)),
        ("created_at", .string rule.createdAt.text)] ++
      optionalField "description" (rule.description.map .string) ++
      [("id", .string rule.id), ("name", .string rule.name), ("priority", .ofInt rule.priority.toInt),
        ("type", .string rule.kind.name), ("updated_at", .string rule.updatedAt.text)])

def Rule.content (rule : Rule) : Content :=
  .fields
    ([(some "id", .text rule.id), (some "name", .text rule.name)] ++
      Content.optional "description" (rule.description.map .text) ++
      [(some "type", .text rule.kind.name), (some "priority", .value (.ofInt rule.priority.toInt)),
        (some "active", .value (.bool rule.active)),
        (some "conditions", .sequence (rule.conditions.map Condition.content)),
        (some "actions", .sequence (rule.actions.map Action.content)),
        (some "created_at", .text rule.createdAt.text), (some "updated_at", .text rule.updatedAt.text)])

def Metadata.toJson (metadata : Metadata) : Json :=
  .object
    (optionalField "created_by" (metadata.createdBy.map .string) ++
      optionalField "created_date" (metadata.createdDate.map .string) ++
      optionalField "description" (metadata.description.map .string) ++
      [("name", .string metadata.name)])

def Metadata.content (metadata : Metadata) : Content :=
  .fields
    ([(some "name", .text metadata.name)] ++ Content.optional "description" (metadata.description.map .text) ++
      Content.optional "created_by" (metadata.createdBy.map .text) ++
      Content.optional "created_date" (metadata.createdDate.map .text))

def RuleSet.toJson (ruleSet : RuleSet) : Json :=
  .object
    [("metadata", ruleSet.metadata.toJson), ("rules", .array (ruleSet.rules.map Rule.toJson)),
      ("version", .string ruleSet.version)]

end Verdict
