import Verdict.Json.Form
import Verdict.Rule.Basic
/-!
Rules out of JSON. Defaults: a condition is joined by AND and a field condition expects null, an action has
no parameters, a rule is active, of middle priority, and was made and changed now.
-/

namespace Verdict

open Time (Instant)

def Operator.decode : Decoder Operator :=
  Decoder.variant (Operator.all.map (fun operator => (operator.name, operator))) none

def Connective.decode : Decoder Connective :=
  Decoder.variant (Connective.all.map (fun connective => (connective.name, connective))) none

def ActionKind.decode : Decoder ActionKind :=
  Decoder.variant (ActionKind.known.map (fun kind => (kind.name, kind))) (some .unknown)

def RuleKind.decode : Decoder RuleKind :=
  Decoder.variant (RuleKind.all.map (fun kind => (kind.name, kind))) none

/-- The test among the fields of a condition: an expression if its source is a string, otherwise a field
test if its path and operator can be read. -/
def ConditionTest.ofFields? (fields : Fields) : Option ConditionTest :=
  match Fields.get? fields "expression" with
  | some (.string source) => some (.expression source)
  | _ =>
    match Fields.get? fields "field", (Fields.get? fields "operator").map Operator.decode with
    | some (.string path), some (.ok operator) =>
      some (.field path operator ((Fields.get? fields "value").getD .null))
    | _, _ => none

/-- A condition; keys that belong to neither the test nor the connective are passed over. -/
def Condition.decode : Decoder Condition
  | .object fields => do
    let connective ←
      match Fields.get? fields "logical_operator" with
      | none => .ok Connective.and
      | some value => Connective.decode value
    match ConditionTest.ofFields? fields with
    | some test => .ok ⟨test, connective⟩
    | none => .error (.noForm "ConditionTest")
  | found => .error (.wrongKind found "struct Condition")

def Action.form : Form Action :=
  Action.mk <$> .required "type" ActionKind.decode <*> .optional "parameters" Decoder.fields []

def Action.decode : Decoder Action :=
  Action.form.decode "struct Action" true

def Rule.form (now : Instant) : Form Rule :=
  Rule.mk <$> .required "id" Decoder.text <*> .required "name" Decoder.text <*>
    .nullable "description" Decoder.text <*> .required "type" RuleKind.decode <*>
    .optional "priority" Decoder.int32 Rule.defaultPriority <*> .optional "active" Decoder.boolean true <*>
    .required "conditions" (Decoder.list Condition.decode) <*>
    .required "actions" (Decoder.list Action.decode) <*>
    .optional "created_at" Decoder.timestamp now <*> .optional "updated_at" Decoder.timestamp now

def Rule.decode (now : Instant) : Decoder Rule :=
  (Rule.form now).decode "struct Rule" true

def Metadata.form : Form Metadata :=
  Metadata.mk <$> .required "name" Decoder.text <*> .nullable "description" Decoder.text <*>
    .nullable "created_by" Decoder.text <*> .nullable "created_date" Decoder.text

def Metadata.decode : Decoder Metadata :=
  Metadata.form.decode "struct RuleSetMetadata" true

def RuleSet.form (now : Instant) : Form RuleSet :=
  RuleSet.mk <$> .required "version" Decoder.text <*> .required "metadata" Metadata.decode <*>
    .required "rules" (Decoder.list (Rule.decode now))

def RuleSet.decode (now : Instant) : Decoder RuleSet :=
  (RuleSet.form now).decode "struct RuleSet" true

def RulePatch.form : Form RulePatch :=
  RulePatch.mk <$> .nullable "name" Decoder.text <*> .nullable "description" Decoder.text <*>
    .nullable "type" RuleKind.decode <*> .nullable "priority" Decoder.int32 <*>
    .nullable "active" Decoder.boolean <*> .nullable "conditions" (Decoder.list Condition.decode) <*>
    .nullable "actions" (Decoder.list Action.decode)

def RulePatch.decode : Decoder RulePatch :=
  RulePatch.form.decode "struct RulePatch" true

end Verdict
