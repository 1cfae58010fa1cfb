import Verdict.Json.Form
/-!
The settings of the service. Every setting may be left out, and unknown settings are passed over.
-/

namespace Verdict

structure ServerSettings where
  host : String
  port : Nat
deriving Repr

structure EngineSettings where
  historyCapacity : Nat
  parallelBatch : Bool
  rulesFile : Option String
deriving Repr

structure ObservationSettings where
  serviceName : String
  metricsEnabled : Bool
  metricsPort : Nat
  logLevel : String
  jsonLogs : Bool
deriving Repr

structure Settings where
  serviceName : String
  environment : String
  server : ServerSettings
  engine : EngineSettings
  observation : ObservationSettings
deriving Repr

def ServerSettings.default : ServerSettings := ⟨"0.0.0.0", 8080⟩

def EngineSettings.default : EngineSettings := ⟨1000, true, none⟩

def ObservationSettings.default : ObservationSettings := ⟨"unknown-service", true, 9090, "info", false⟩

def ServerSettings.form : Form ServerSettings :=
  ServerSettings.mk <$> .optional "host" Decoder.text ServerSettings.default.host <*>
    .optional "port" Decoder.word16 ServerSettings.default.port

def EngineSettings.form : Form EngineSettings :=
  EngineSettings.mk <$>
    .optional "history_capacity" Decoder.word64 EngineSettings.default.historyCapacity <*>
    .optional "parallel_batch" Decoder.boolean EngineSettings.default.parallelBatch <*>
    .nullable "rules_file" Decoder.text

def ObservationSettings.form : Form ObservationSettings :=
  ObservationSettings.mk <$>
    .optional "service_name" Decoder.text ObservationSettings.default.serviceName <*>
    .optional "metrics_enabled" Decoder.boolean ObservationSettings.default.metricsEnabled <*>
    .optional "metrics_port" Decoder.word16 ObservationSettings.default.metricsPort <*>
    .optional "log_level" Decoder.text ObservationSettings.default.logLevel <*>
    .optional "json_logs" Decoder.boolean ObservationSettings.default.jsonLogs

def Settings.form : Form Settings :=
  Settings.mk <$> .optional "service_name" Decoder.text "" <*> .optional "environment" Decoder.text "" <*>
    .optional "server" (ServerSettings.form.decode "struct ServerConfig" false) .default <*>
    .optional "engine" (EngineSettings.form.decode "struct EngineConfig" false) .default <*>
    .optional "observability" (ObservationSettings.form.decode "struct ObservabilityConfig" false) .default

namespace Settings

def decode : Decoder Settings :=
  form.decode "struct AppConfig" false

def address (settings : Settings) : String :=
  settings.server.host ++ ":" ++ toString settings.server.port

def isProduction (settings : Settings) : Bool :=
  settings.environment == "production"

def namedObservation (settings : Settings) : ObservationSettings :=
  { settings.observation with serviceName := settings.serviceName }

end Settings

end Verdict
