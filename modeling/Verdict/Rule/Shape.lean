import Verdict.Error
import Verdict.Rule.Decoding
/-!
The shape of conditions before they are read: what is wrong with each condition, field by field. A list
without faults can be read as conditions.
-/

namespace Verdict.Shape

open FieldViolation (report)

def conditionKeys : List String := ["field", "operator", "value", "logical_operator", "expression"]

def fieldTestKeys : List String := ["field", "operator", "value"]

def below (path key : String) : String := path ++ "." ++ key

def accepts (decode : Decoder α) (value : Json) : Bool :=
  (decode.refusal value).isNone

def keyFaults (path : String) (fields : Fields) : List FieldViolation :=
  (fields.filter (fun field => !conditionKeys.contains field.1)).map
    (fun field => ⟨below path field.1, .unknownKey⟩)

def connectiveFaults (path : String) (fields : Fields) : List FieldViolation :=
  report ((Fields.get? fields "logical_operator").any (fun value => !accepts Connective.decode value))
    (below path "logical_operator") .badConnective

/-- What is wrong with an expression test: it is no text, or keys of a field test stand beside it. -/
def expressionFaults (path : String) (fields : Fields) (source : Json) : List FieldViolation :=
  report (!source.isString) (below path "expression") .expressionNotString ++
    (fieldTestKeys.filter (Fields.hasKey fields)).map (fun key => ⟨below path key, .expressionBesideField⟩)

/-- What is wrong with a field test: its path, its operator, or a value that the operator needs. -/
def fieldTestFaults (path : String) (fields : Fields) : List FieldViolation :=
  report (!(Fields.get? fields "field").any Json.isString) (below path "field") .missingPath ++
    match (Fields.get? fields "operator").map Operator.decode with
    | some (.ok operator) =>
      report (!operator.needsNoValue && !(Fields.get? fields "value").any (fun value => !value.isNull))
        (below path "value") .missingValue
    | _ => [⟨below path "operator", .badOperator⟩]

def conditionFaults (path : String) : Json → List FieldViolation
  | .object fields =>
    keyFaults path fields ++ connectiveFaults path fields ++
      match Fields.get? fields "expression" with
      | some source => expressionFaults path fields source
      | none => fieldTestFaults path fields
  | _ => [⟨path, .conditionNotObject⟩]

def conditionListFaults (path : String) (place : Nat) : List Json → List FieldViolation
  | [] => []
  | item :: rest =>
    conditionFaults (below path (toString place)) item ++ conditionListFaults path (place + 1) rest

def conditionsFaults (path : String) : Json → List FieldViolation
  | .array items => conditionListFaults path 0 items
  | _ => [⟨path, .conditionsNotArray⟩]

def ruleListFaults (place : Nat) : List Json → List FieldViolation
  | [] => []
  | rule :: rest =>
    ((rule.fields?.bind (fun fields => Fields.get? fields "conditions")).elim []
        (conditionsFaults (below (below "rules" (toString place)) "conditions"))) ++
      ruleListFaults (place + 1) rest

/-- What is wrong with the conditions of a rule set: of every rule that is an object with conditions, if
the rule set is an object with an array of rules. -/
def ruleSetFaults (payload : Json) : List FieldViolation :=
  ((payload.fields?.bind (fun fields => Fields.get? fields "rules")).bind Json.items?).elim []
    (ruleListFaults 0)

end Verdict.Shape
