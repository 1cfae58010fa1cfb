import Verdict.Record.Path
import Verdict.Rule.Intake
/-!
How records are evaluated, and the requests that ask for it. Single records keep the results of their
conditions unless told otherwise, batches do not.
-/

namespace Verdict

structure Options where
  strict : Bool
  stopsAtFailure : Bool
  keepsConditions : Bool
deriving DecidableEq, Repr

namespace Options

def single : Options := ⟨false, false, true⟩

def batch : Options := ⟨false, false, false⟩

/-- The fields of options; those left out are taken from a fallback. -/
def form (fallback : Options) : Form Options :=
  Options.mk <$> .optional "strict_mode" Decoder.boolean fallback.strict <*>
    .optional "stop_on_first_failure" Decoder.boolean fallback.stopsAtFailure <*>
    .optional "include_rule_details" Decoder.boolean fallback.keepsConditions

def decodeSingle : Decoder Options :=
  (form single).decode "struct EvaluationOptions" true

def decodeBatch : Decoder Options :=
  (form batch).decode "struct BatchOptions" true

def toJson (options : Options) : Json :=
  .object
    [("include_rule_details", .bool options.keepsConditions),
      ("stop_on_first_failure", .bool options.stopsAtFailure), ("strict_mode", .bool options.strict)]

end Options

structure EvaluationRequest where
  record : Record
  options : Options
deriving Repr

structure BatchRequest where
  records : List Record
  options : Options
deriving Repr

def EvaluationRequest.form : Form EvaluationRequest :=
  EvaluationRequest.mk <$> .required "procurement_data" Decoder.fields <*>
    .optional "options" Options.decodeSingle .single

def BatchRequest.form : Form BatchRequest :=
  BatchRequest.mk <$> .required "procurement_records" (Decoder.list Decoder.fields) <*>
    .optional "options" Options.decodeBatch .batch

def EvaluationRequest.accept (payload : Json) : Except RuleError EvaluationRequest :=
  Document.evaluationRequest.read (EvaluationRequest.form.decode "struct EvaluationRequest" true) payload

def BatchRequest.accept (payload : Json) : Except RuleError BatchRequest :=
  Document.batchRequest.read (BatchRequest.form.decode "struct BatchRequest" true) payload

end Verdict
