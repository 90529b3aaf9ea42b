import Telemetry.Dsn
import Telemetry.Emitter.Basic
import Telemetry.Pattern.Language
import Telemetry.Trace.Header
import Telemetry.Transport.Delivery

/-! Options of a client: where it sends, what it keeps back, how it samples, and the callbacks it
asks. They are checked before a client is made of them. -/

namespace Telemetry

/-- What is known about where an event came from. -/
structure EventHint where
  /-- The error or panic behind the event, as text. -/
  cause : Option String
  mechanism : Option String
deriving DecidableEq, Repr, Inhabited

/-- How a client gets its transport. -/
inductive TransportKind where
  /-- Envelopes are collected; some categories may count as limited. -/
  | collecting (limited : Category → Bool)
  /-- Envelopes are thrown away. -/
  | discarding
  /-- Envelopes are delivered at once. -/
  | immediate (requester : Requester)
  /-- Envelopes are delivered by a worker. -/
  | queued (requester : Requester)

/-- The options of a client, the integrations apart. -/
structure Settings where
  dsn : Option Dsn
  release : Option String
  environment : Option String
  serverName : Option String
  sampleRate : Float32
  tracesSampleRate : Float32
  tracesSampler : Option (TransactionContext → Float32)
  maxBreadcrumbs : Nat
  attachStacktrace : Bool
  sendDefaultPii : Bool
  ignoreErrors : List String
  ignoreTransactions : List String
  defaultIntegrations : Bool
  beforeSend : Option (Event → EventHint → Option Event)
  beforeSendTransaction : Option (Event → EventHint → Option Event)
  beforeBreadcrumb : Option (Breadcrumb → Option Breadcrumb)
  beforeSendLog : Option (Log → Option Log)
  beforeSendMetric : Option (Metric → Option Metric)
  enableLogs : Bool
  enableMetrics : Bool
  transport : Option TransportKind
  httpProxy : Option String
  httpsProxy : Option String
  /-- Nanoseconds that closing a client may take. -/
  shutdownTimeout : Nat
  userAgent : String
  transportBatchSize : Nat
  transportBatchTimeout : Nat
  logBatchSize : Nat
  logBatchTimeout : Nat
  metricBatchSize : Nat
  metricBatchTimeout : Nat
  queuePolicy : QueuePolicy

/-- What kind of integration one is; integrations are looked up by it. -/
inductive IntegrationKind where
  /-- Reports panics. An extractor may make its own event of a panic's message and a blank event. -/
  | panic (extractors : List (String → Event → Option Event))
  | custom (type : String)

/-- A part of a client that may change its options and its events. -/
structure Integration where
  kind : IntegrationKind
  /-- The name, of which a client takes the first integration. -/
  name : String
  /-- What the integration changes in the options when a client is made. -/
  setup : Settings → Settings
  /-- What the integration makes of an event, if it does not drop it. -/
  process : Settings → Event → Option Event

/-- The options of a client. -/
structure ClientOptions extends Settings where
  integrations : List Integration

/-- What the library says about itself. -/
def sdkName : String := "outpost.rust"

/-- The version of the library. -/
def sdkVersion : String := "0.1.0"

/-- The library as the producer of events. -/
def sdkInfo : SdkInfo := ⟨sdkName, sdkVersion, []⟩

/-- The integration that reports panics. -/
def panicIntegration (extractors : List (String → Event → Option Event)) : Integration :=
  { kind := .panic extractors, name := "panic", setup := id, process := fun _ e => some e }

namespace Settings

/-- Nanoseconds in a second. -/
def second : Nat := 1000000000

/-- What holds for everything that is not set. -/
def default : Settings :=
  { dsn := none, release := none, environment := none, serverName := none, sampleRate := 1,
    tracesSampleRate := 0, tracesSampler := none, maxBreadcrumbs := 100, attachStacktrace := false,
    sendDefaultPii := false, ignoreErrors := [], ignoreTransactions := [],
    defaultIntegrations := true, beforeSend := none, beforeSendTransaction := none,
    beforeBreadcrumb := none, beforeSendLog := none, beforeSendMetric := none, enableLogs := false,
    enableMetrics := false, transport := none, httpProxy := none, httpsProxy := none,
    shutdownTimeout := 2 * second, userAgent := sdkName ++ "/" ++ sdkVersion,
    transportBatchSize := 30, transportBatchTimeout := second, logBatchSize := 100,
    logBatchTimeout := 5 * second, metricBatchSize := 100, metricBatchTimeout := 5 * second,
    queuePolicy := .block }

instance : Inhabited Settings := ⟨default⟩

/-- The batches of logs. -/
def logConfig (s : Settings) : BatchConfig :=
  .make "logs" s.logBatchSize s.logBatchTimeout s.queuePolicy

/-- The batches of metrics. -/
def metricConfig (s : Settings) : BatchConfig :=
  .make "metrics" s.metricBatchSize s.metricBatchTimeout s.queuePolicy

/-- The batches of a transport. -/
def transportConfig (s : Settings) : BatchConfig :=
  .make "transport" s.transportBatchSize s.transportBatchTimeout s.queuePolicy

end Settings

/-- Why no client can be made of some options. -/
inductive ConfigError where
  | invalidDsn (cause : DsnError)
  | invalidSampleRate (name : String) (value : Float32)
  | invalidPattern (pattern : String)

namespace ConfigError

/-- The wording of an error in the options. -/
def message : ConfigError → String
  | .invalidDsn cause => "invalid DSN: " ++ cause.message
  | .invalidSampleRate name value =>
    name ++ " must be between 0 and 1, got " ++ FloatLayout.message.single value
  | .invalidPattern pattern => "invalid ignore pattern `" ++ pattern ++ "`"

end ConfigError

/-- A pattern that was read. -/
structure IgnorePattern where
  text : String
  /-- Whether the pattern is found in a text. -/
  isFoundIn : String → Bool

/-- The patterns of what a client ignores. -/
structure IgnorePatterns where
  errors : List IgnorePattern
  transactions : List IgnorePattern

namespace Settings

/-- Checks a sample rate. -/
def checkRate (name : String) (rate : Float32) : Except ConfigError Unit :=
  if 0 ≤ rate && rate ≤ 1 then .ok () else .error (.invalidSampleRate name rate)

/-- Reads a pattern. -/
def compilePattern [PatternLanguage] (text : String) : Except ConfigError IgnorePattern :=
  match PatternLanguage.read? text with
  | some isFoundIn => .ok ⟨text, isFoundIn⟩
  | none => .error (.invalidPattern text)

/-- Checks the options and reads their patterns: the rates first, and patterns of errors before
those of transactions. -/
def compile [PatternLanguage] (s : Settings) : Except ConfigError IgnorePatterns := do
  checkRate "sample_rate" s.sampleRate
  checkRate "traces_sample_rate" s.tracesSampleRate
  let errors ← s.ignoreErrors.mapM compilePattern
  let transactions ← s.ignoreTransactions.mapM compilePattern
  return ⟨errors, transactions⟩

/-- Checks the options. -/
def validate [PatternLanguage] (s : Settings) : Except ConfigError Unit := s.compile.map fun _ => ()

/-- The rate at which a transaction is kept: a decision that comes with its trace counts most, then
the sampler, then the fixed rate. -/
def transactionRate (s : Settings) (c : TransactionContext) : Float32 :=
  match c.sampled, s.tracesSampler with
  | some true, _ => 1
  | some false, _ => 0
  | none, some sampler => sampler c
  | none, none => s.tracesSampleRate

end Settings

namespace ClientOptions

/-- What holds for everything that is not set. -/
def default : ClientOptions := { Settings.default with integrations := [] }

instance : Inhabited ClientOptions := ⟨default⟩

/-- Options with a DSN that may be left blank. -/
def withDsn [Host.Names] (o : ClientOptions) (s : String) : Except ConfigError ClientOptions :=
  match Dsn.parseOptional s with
  | .error e => .error (.invalidDsn e)
  | .ok dsn => .ok { o with dsn }

/-- The options of a DSN. -/
def ofDsn [Host.Names] (s : String) : Except ConfigError ClientOptions := default.withDsn s

/-- Options as debugging output shows them. -/
def debug (o : ClientOptions) : String :=
  let text := Quoted.option Quoted.text
  let texts := Quoted.list Quoted.text
  let callback {α : Type} (f : Option α) : String := Quoted.option (fun _ => "Callback") f
  Quoted.record "ClientOptions" [
    ("dsn", Quoted.option Dsn.debug o.dsn), ("release", text o.release),
    ("environment", text o.environment), ("server_name", text o.serverName),
    ("sample_rate", FloatLayout.debug.single o.sampleRate),
    ("traces_sample_rate", FloatLayout.debug.single o.tracesSampleRate),
    ("traces_sampler", callback o.tracesSampler), ("max_breadcrumbs", toString o.maxBreadcrumbs),
    ("attach_stacktrace", Quoted.bool o.attachStacktrace),
    ("send_default_pii", Quoted.bool o.sendDefaultPii), ("ignore_errors", texts o.ignoreErrors),
    ("ignore_transactions", texts o.ignoreTransactions),
    ("integrations", texts (o.integrations.map Integration.name)),
    ("default_integrations", Quoted.bool o.defaultIntegrations),
    ("before_send", callback o.beforeSend),
    ("before_send_transaction", callback o.beforeSendTransaction),
    ("before_breadcrumb", callback o.beforeBreadcrumb),
    ("before_send_log", callback o.beforeSendLog),
    ("before_send_metric", callback o.beforeSendMetric), ("enable_logs", Quoted.bool o.enableLogs),
    ("enable_metrics", Quoted.bool o.enableMetrics), ("transport", callback o.transport),
    ("http_proxy", text o.httpProxy), ("https_proxy", text o.httpsProxy),
    ("shutdown_timeout", durationDebug o.shutdownTimeout), ("user_agent", Quoted.text o.userAgent),
    ("transport_batch_size", toString o.transportBatchSize),
    ("transport_batch_timeout", durationDebug o.transportBatchTimeout),
    ("log_batch_size", toString o.logBatchSize),
    ("log_batch_timeout", durationDebug o.logBatchTimeout),
    ("metric_batch_size", toString o.metricBatchSize),
    ("metric_batch_timeout", durationDebug o.metricBatchTimeout),
    ("queue_full_policy", o.queuePolicy.debug)]

end ClientOptions

end Telemetry
