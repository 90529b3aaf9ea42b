import Telemetry.Client.Pipeline

/-! What a client hands to its transport: envelopes at once, logs and metrics by way of their
emitters, whose workers put a batch into an envelope of its own. -/

namespace Telemetry.Client

/-- What an operation of a client led to. -/
structure Step (α : Type) where
  result : α
  client : Client
  diagnostics : List Diagnostic
  /-- Whether the code that makes requests gave up with a panic. -/
  panicked : Bool

/-- Hands an envelope to the transport, if there still is one. -/
def send (now : Instant) (pace : Emitter.Pace) (e : Envelope) (c : Client) : Step Unit :=
  match c.current? with
  | none => ⟨(), c, [], false⟩
  | some t =>
    let r := t.send now pace e
    ⟨(), { c with transport := some r.transport }, r.diagnostics, r.panicked⟩

/-- Hands on what workers put together, each in an envelope of its own. -/
def handOn (now : Instant) (pace : Emitter.Pace) : List Item → Client → Client
  | [], c => c
  | i :: is, c => handOn now (pace.sub 1) is (c.send now (pace.sub 0) (.ofItem i)).client

/-- Lets the workers of the emitters and of the transport go on. -/
def turn (now : Instant) (pace : Emitter.Pace) (c : Client) : Client :=
  let logs := c.logs.map fun e => e.turn (pace.sub 0).turn
  let c := { c with logs := logs.map Prod.snd }
  let c := c.handOn now (pace.sub 1) ((logs.map Prod.fst).getD [] |>.map .logs)
  let metrics := c.metrics.map fun e => e.turn (pace.sub 2).turn
  let c := { c with metrics := metrics.map Prod.snd }
  let c := c.handOn now (pace.sub 3) ((metrics.map Prod.fst).getD [] |>.map .metrics)
  { c with transport := c.transport.map (Transport.turn now (pace.sub 4).turn) }

/-- What is said about something that is held back. -/
def limitedDiagnostic (category : Category) : Diagnostic :=
  .info ("[Client] Skipping " ++ category.name ++ " due to rate limits")

/-- The attributes that a client adds to logs and metrics. -/
def defaultAttributes (c : Client) : List (String × Option String) :=
  [("sentry.environment", c.options.environment), ("sentry.release", c.options.release),
   ("sentry.sdk.name", some c.sdk.name), ("sentry.sdk.version", some c.sdk.version),
   ("server.address", c.options.serverName)]

/-- Prepares a log, which the callback may drop. -/
def prepareLog (traces : Traces) (scope : Scope) (l : Log) (c : Client) : Option Log :=
  let l := scope.applyToLog traces c.options.sendDefaultPii l
  let l := { l with attributes := Scope.addAttributes l.attributes c.defaultAttributes }
  match c.options.beforeSendLog with
  | some f => f l
  | none => some l

/-- Prepares a metric, which the callback may drop. -/
def prepareMetric (traces : Traces) (scope : Scope) (m : Metric) (c : Client) : Option Metric :=
  let m := scope.applyToMetric traces m
  let m := { m with attributes := Scope.addAttributes m.attributes c.defaultAttributes }
  match c.options.beforeSendMetric with
  | some f => f m
  | none => some m

/-- Captures a log, if logs are enabled. -/
def captureLog (now : Instant) (pace : Emitter.Pace) (traces : Traces) (scope : Scope) (l : Log)
    (c : Client) : Step Unit :=
  match c.logs with
  | none => ⟨(), c, [], false⟩
  | some emitter =>
    match c.prepareLog traces scope l with
    | none => ⟨(), c, [], false⟩
    | some l =>
      if c.isLimited now .logItem then ⟨(), c, [limitedDiagnostic .logItem], false⟩
      else
        let r := emitter.enqueue (pace.sub 0) l
        let c := { c with logs := some r.emitter }
        ⟨(), c.handOn now (pace.sub 1) (r.batches.map .logs),
          r.result.diagnostics emitter.config.name, false⟩

/-- Captures a metric, if metrics are enabled. -/
def captureMetric (now : Instant) (pace : Emitter.Pace) (traces : Traces) (scope : Scope)
    (m : Metric) (c : Client) : Step Unit :=
  match c.metrics with
  | none => ⟨(), c, [], false⟩
  | some emitter =>
    match c.prepareMetric traces scope m with
    | none => ⟨(), c, [], false⟩
    | some m =>
      if c.isLimited now .traceMetric then ⟨(), c, [limitedDiagnostic .traceMetric], false⟩
      else
        let r := emitter.enqueue (pace.sub 0) m
        let c := { c with metrics := some r.emitter }
        ⟨(), c.handOn now (pace.sub 1) (r.batches.map .metrics),
          r.result.diagnostics emitter.config.name, false⟩

/-- Waits until the logs are handed on. -/
def flushLogs (now : Instant) (pace : Emitter.Pace) (c : Client) : Bool × Client :=
  match c.logs with
  | none => (true, c)
  | some emitter =>
    let r := emitter.flush (pace.sub 0)
    (r.result,
      { c with logs := some r.emitter }.handOn now (pace.sub 1) (r.batches.map .logs))

/-- Waits until the metrics are handed on. -/
def flushMetrics (now : Instant) (pace : Emitter.Pace) (c : Client) : Bool × Client :=
  match c.metrics with
  | none => (true, c)
  | some emitter =>
    let r := emitter.flush (pace.sub 0)
    (r.result,
      { c with metrics := some r.emitter }.handOn now (pace.sub 1) (r.batches.map .metrics))

/-- Waits until the transport has delivered everything. -/
def flushTransport (now : Instant) (pace : Emitter.Pace) (c : Client) : Bool × Client :=
  match c.current? with
  | none => (true, c)
  | some t =>
    let (done, t) := t.flush now pace
    (done, { c with transport := some t })

/-- Waits until everything is delivered: logs and metrics first, so that the transport has their
envelopes before it is waited for. -/
def flush (now : Instant) (pace : Emitter.Pace) (c : Client) : Step Bool :=
  let (logs, c) := c.flushLogs now (pace.sub 0)
  let (metrics, c) := c.flushMetrics now (pace.sub 1)
  let (transport, c) := c.flushTransport now (pace.sub 2)
  let done := logs && metrics && transport
  ⟨done, c, [.debug ("[Client] Flush completed: " ++ Quoted.bool done)], false⟩

/-- Stops the emitter of logs. -/
def closeLogs (now : Instant) (pace : Emitter.Pace) (c : Client) :
    Bool × List Diagnostic × Client :=
  match c.logs with
  | none => (true, [], c)
  | some emitter =>
    let r := emitter.shutdown (pace.sub 0)
    (r.result.isDone, r.result.diagnostics emitter.config.name,
      { c with logs := some r.emitter }.handOn now (pace.sub 1) (r.batches.map .logs))

/-- Stops the emitter of metrics. -/
def closeMetrics (now : Instant) (pace : Emitter.Pace) (c : Client) :
    Bool × List Diagnostic × Client :=
  match c.metrics with
  | none => (true, [], c)
  | some emitter =>
    let r := emitter.shutdown (pace.sub 0)
    (r.result.isDone, r.result.diagnostics emitter.config.name,
      { c with metrics := some r.emitter }.handOn now (pace.sub 1) (r.batches.map .metrics))

/-- Lets go of the transport and shuts it down. -/
def closeTransport (now : Instant) (pace : Emitter.Pace) (c : Client) :
    Bool × List Diagnostic × Client :=
  match c.current? with
  | none => (true, [], c)
  | some t =>
    let (done, diagnostics, t) := t.shutdown now pace
    (done, diagnostics, { c with transport := some t, attached := false })

/-- Delivers what is left, lets go of the transport and shuts it down. -/
def close (now : Instant) (pace : Emitter.Pace) (c : Client) : Step Bool :=
  let (logs, d₁, c) := c.closeLogs now (pace.sub 0)
  let (metrics, d₂, c) := c.closeMetrics now (pace.sub 1)
  let (transport, d₃, c) := c.closeTransport now (pace.sub 2)
  let done := logs && metrics && transport
  ⟨done, c, d₁ ++ d₂ ++ d₃ ++ [.debug ("[Client] Closed: " ++ Quoted.bool done)], false⟩

end Telemetry.Client
