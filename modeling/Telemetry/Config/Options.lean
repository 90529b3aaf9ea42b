import Telemetry.Config.Rule
import Telemetry.Pattern.Reader
import Telemetry.Url.Domain

/-! Options of a client written as an object. Callbacks are written as rules; a transport that makes
requests is written with the answers it gets. What is absent keeps its default. -/

namespace Telemetry.Config

/-! ### What programs run with

There are more patterns and more domain names than these. What is said of clients holds for all
languages of patterns and all ASCII forms, and nothing of it rests on the two here. -/

instance : PatternLanguage := ⟨fun s => (Pattern.parse? s).map Pattern.matchesText⟩

instance : Host.Names := ⟨Host.domainToAscii?⟩

/-! ### Values -/

/-- A length of time, given in milliseconds; `max` is the longest there is. -/
def duration? (j : Json) (k : String) : Option Nat :=
  match j.get k with
  | .int n => some (n.toNat * 1000000)
  | .str "max" => some (UInt64.size * Settings.second - 1)
  | _ => none

/-- A length of time in milliseconds, as far as 64 bits go. -/
def millis (nanos : Nat) : Json := .int (min (nanos / 1000000) (UInt64.size - 1) : Nat)

/-- A rate. -/
def rate? (j : Json) : Option Float32 := j.asFloat?.map Float.toFloat32

/-- A float; what is not finite is written as text. -/
def number (x : Float) : Json :=
  match Binary.ofFloat x with
  | .finite .. => .float x
  | _ => .str (FloatLayout.message.double x)

/-- A callback that drops what has a certain text, and appends to all other texts. -/
def textFilter {α : Type} (get : α → String) (set : String → α → α) (j : Json) (a : α) : Option α :=
  if j.text? "drop" = some (get a) then none else some (set (get a ++ j.text "append") a)

/-- A sampler: the first rule that fits gives the rate. -/
def sampler (j : Json) (c : TransactionContext) : Float32 :=
  let fits (r : Json) : Bool :=
    (r.text? "name").all (· == c.name) && (r.text? "operation").all (· == c.operation) &&
      (r.bool? "continued").all (· == c.parentSpanId.isSome)
  let rate := match (j.items "rules").find? fits with
    | some r => r.get "rate"
    | none => j.get "default"
  (rate? rate).getD 0

/-- How a request ends. -/
def requestResult (j : Json) : RequestResult :=
  match j.text? "fail" with
  | some "missing_dsn" => .failed .noDsn
  | some "io" => .failed .unserializable
  | some reason => .failed (.noHttpClient reason)
  | none => .answered ⟨(j.nat? "status").getD 200, j.text? "retry_after", j.text? "rate_limits"⟩

/-- Requests with prepared answers; those that come later find nothing wrong. -/
def requester (j : Json) : Requester := fun n _ =>
  requestResult ((j.items "responses")[n]?.getD (.obj []))

/-- The categories of a list of names. -/
def categories (j : Json) (k : String) : List Category := (j.texts k).filterMap Category.parse?

/-- A kind of transport. -/
def transport? (j : Json) : Option TransportKind :=
  match j.text "type" with
  | "none" => none
  | "limited" => some (.collecting fun c => (categories j "categories").contains c)
  | "sync" => some (.immediate (requester j))
  | "async" => some (.queued (requester j))
  | _ => some (.collecting fun _ => false)

/-- An extractor for panics whose message has a certain start. -/
def extractor (start : String) (message : String) (blank : Event) : Option Event :=
  if message.startsWith start then
    some { blank with message := some ("extracted by " ++ start ++ ": " ++ message) }
  else none

/-- An integration that overwrites options when it is set up. -/
def setup (j : Json) (s : Settings) : Settings :=
  { s with
    release := (j.text? "release").or s.release
    enableLogs := (j.bool? "enable_logs").getD s.enableLogs }

/-- An integration that applies rules to events, and may first tag them with the release in force.
-/
def process (j : Json) (s : Settings) (e : Event) : Option Event :=
  let e := if (j.get "setup").flag "tag_release" then
      { e with tags := e.tags.insert "options.release" (s.release.getD "-") }
    else e
  Rule.applyAll (Rule.readAll (j.get "rules")) ⟨none, none⟩ e

/-- An integration. -/
def integration (j : Json) : Integration :=
  match j.text "type" with
  | "panic" => panicIntegration ((j.texts "extractors").map extractor)
  | "second" =>
    { kind := .custom "second", name := j.text "name", setup := id, process := fun _ e => some e }
  | _ =>
    { kind := .custom "first", name := j.text "name", setup := setup (j.get "setup")
      process := process j }

/-- The policy of a queue. -/
def policy (j : Json) (k : String) : QueuePolicy :=
  if j.text k = "drop_newest" then .dropNewest else .block

/-- Reads options. -/
def options (dsn : Option Dsn) (transport : Option TransportKind) (j : Json) : ClientOptions :=
  let d := Settings.default
  let hook {α : Type} (k : String) (f : Json → α) : Option α := (j.given? k).map f
  let rules (j : Json) (e : Event) (hint : EventHint) : Option Event :=
    Rule.applyAll (Rule.readAll j) hint e
  let bool (k : String) (old : Bool) : Bool := (j.bool? k).getD old
  let size (k : String) (old : Nat) : Nat := (j.nat? k).getD old
  let time (k : String) (old : Nat) : Nat := (duration? j k).getD old
  { dsn
    release := j.text? "release"
    environment := j.text? "environment"
    serverName := j.text? "server_name"
    sampleRate := (rate? (j.get "sample_rate")).getD d.sampleRate
    tracesSampleRate := (rate? (j.get "traces_sample_rate")).getD d.tracesSampleRate
    tracesSampler := hook "traces_sampler" sampler
    maxBreadcrumbs := size "max_breadcrumbs" d.maxBreadcrumbs
    attachStacktrace := bool "attach_stacktrace" d.attachStacktrace
    sendDefaultPii := bool "send_default_pii" d.sendDefaultPii
    ignoreErrors := j.texts "ignore_errors"
    ignoreTransactions := j.texts "ignore_transactions"
    defaultIntegrations := bool "default_integrations" d.defaultIntegrations
    beforeSend := hook "before_send" rules
    beforeSendTransaction := hook "before_send_transaction" rules
    beforeBreadcrumb := hook "before_breadcrumb"
      (textFilter (fun b => b.message.getD "") fun t b => { b with message := some t })
    beforeSendLog := hook "before_send_log" (textFilter Log.body fun t l => { l with body := t })
    beforeSendMetric := hook "before_send_metric"
      (textFilter Metric.name fun t m => { m with name := t })
    enableLogs := bool "enable_logs" d.enableLogs
    enableMetrics := bool "enable_metrics" d.enableMetrics
    transport := match j.given? "transport" with
      | some t => transport? t
      | none => transport
    httpProxy := j.text? "http_proxy"
    httpsProxy := j.text? "https_proxy"
    shutdownTimeout := time "shutdown_timeout_ms" d.shutdownTimeout
    userAgent := d.userAgent
    transportBatchSize := size "transport_batch_size" d.transportBatchSize
    transportBatchTimeout := time "transport_batch_timeout_ms" d.transportBatchTimeout
    logBatchSize := size "log_batch_size" d.logBatchSize
    logBatchTimeout := time "log_batch_timeout_ms" d.logBatchTimeout
    metricBatchSize := size "metric_batch_size" d.metricBatchSize
    metricBatchTimeout := time "metric_batch_timeout_ms" d.metricBatchTimeout
    queuePolicy := policy j "queue_full_policy"
    integrations := (j.items "integrations").map integration }

/-- Reads options with a DSN of their own; `dsn` is that of options that do not say anything about
it. -/
def readOptions (dsn : String) (transport : Option TransportKind) (j : Json) :
    Except DsnError ClientOptions := do
  let dsn ← match j.field? "dsn" with
    | none => Dsn.parseOptional dsn
    | some (.str s) => Dsn.parseOptional s
    | some _ => .ok none
  return options dsn transport j

/-- Options as an object; of callbacks it says nothing. -/
def written (o : ClientOptions) : Json :=
  let text : Option String → Json := Json.orNull .str
  let texts : List String → Json := Json.array .str
  let nat (n : Nat) : Json := .int n
  .obj [
    ("dsn", text (o.dsn.map Dsn.text)), ("release", text o.release),
    ("environment", text o.environment), ("server_name", text o.serverName),
    ("http_proxy", text o.httpProxy), ("https_proxy", text o.httpsProxy),
    ("sample_rate", number o.sampleRate.toFloat),
    ("traces_sample_rate", number o.tracesSampleRate.toFloat),
    ("max_breadcrumbs", nat o.maxBreadcrumbs), ("attach_stacktrace", .bool o.attachStacktrace),
    ("send_default_pii", .bool o.sendDefaultPii), ("ignore_errors", texts o.ignoreErrors),
    ("ignore_transactions", texts o.ignoreTransactions),
    ("default_integrations", .bool o.defaultIntegrations), ("enable_logs", .bool o.enableLogs),
    ("enable_metrics", .bool o.enableMetrics), ("transport_batch_size", nat o.transportBatchSize),
    ("transport_batch_timeout_ms", millis o.transportBatchTimeout),
    ("log_batch_size", nat o.logBatchSize), ("log_batch_timeout_ms", millis o.logBatchTimeout),
    ("metric_batch_size", nat o.metricBatchSize),
    ("metric_batch_timeout_ms", millis o.metricBatchTimeout),
    ("shutdown_timeout_ms", millis o.shutdownTimeout),
    ("block_when_full", .bool (o.queuePolicy = .block)),
    ("integrations", texts (o.integrations.map Integration.name)),
    ("has_transport", .bool o.transport.isSome), ("user_agent", .str o.userAgent)]

end Telemetry.Config
