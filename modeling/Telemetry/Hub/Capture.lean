import Telemetry.Backtrace
import Telemetry.Hub.Access
import Telemetry.Text.Template

/-! Capturing: whatever is captured in a hub goes through the client of its top layer, together with
the scope of that layer, and nowhere if there is no client. An event that is not sent has no
identifier. -/

namespace Telemetry

/-- Nothing is known about where an event came from. -/
def EventHint.none : EventHint := ⟨.none, .none⟩

namespace Action

/-- Lets the workers of a client go on. -/
def progress (c : ClientId) : Action Unit := onClient c () fun _ _ client => ⟨(), client, [], false⟩

/-- Hands an envelope to the transport of a client. -/
def sendEnvelope (c : ClientId) (e : Envelope) : Action Unit :=
  onClient c () fun now pace client => client.send now pace e

/-- What is left of an event; if nothing is, that is said. -/
def orTell (r : Except EventDrop Event) : Action (Option Event) := do
  match r with
  | .ok e => return some e
  | .error d =>
    debug d.message
    return none

/-- Applies a scope to an event. -/
def applyScope (s : Scope) (e : Event) : Action (Option Event) := do
  orTell (s.applyToEvent (← Run.get).traces e)

/-- What an event meets on its way through a client. -/
def passage (c : ClientId) (client : Client) (scope : Option Scope) (hint : EventHint) :
    Client.Passage Action :=
  { uuid := draw Fresh.uuid
    unit := draw Fresh.unit
    processors := (scope.map Scope.stages).getD []
    integrations := client.stages
    beforeSend := client.options.beforeSend.map (Client.lastStage hint)
    beforeSendTransaction := client.options.beforeSendTransaction.map (Client.lastStage hint)
    isLimited := fun category => do return client.isLimited (← now) category
    send := sendEnvelope c }

/-- Takes an event through a client without sending it. -/
def prepareEvent (c : ClientId) (scope : Option Scope) (hint : EventHint) (e : Event) :
    Action (Option Event) := do
  match ← client? c with
  | none => return none
  | some client =>
    let w ← Run.get
    orTell (← (client.prepare (passage c client scope hint) w.stack w.traces scope e).run)

/-- Takes an event through a client and sends what is left of it. -/
def processEvent (c : ClientId) (scope : Option Scope) (hint : EventHint) (e : Event) :
    Action Uuid := do
  progress c
  match ← client? c with
  | none => return Uuid.nil
  | some client =>
    let w ← Run.get
    let verdict ← client.process (passage c client scope hint) w.stack w.traces scope e
    tell verdict.diagnostics
    return verdict.id

/-- Captures an event in a hub, which remembers the last one that was sent. -/
def captureIn (h : HubId) (hint : EventHint) (e : Event) : Action Uuid := do
  let top ← top h
  match top.client with
  | none => return Uuid.nil
  | some c =>
    let id ← processEvent c (some top.scope) hint e
    if !id.isNil then Run.modify (World.editHub h fun hub => { hub with lastEventId := some id })
    return id

/-- Captures an event. -/
def captureEvent (t : Target) (hint : EventHint) (e : Event) : Action Uuid :=
  t.visit Uuid.nil fun h => captureIn h hint e

/-- Captures a message. -/
def captureMessage (t : Target) (message : String) (level : Level) : Action Uuid :=
  t.visit Uuid.nil fun h => do
    captureIn h .none { ← blankEvent with message := some message, level }

/-- Captures an error with its sources. -/
def captureError (t : Target) (chain : List Backtrace.ShownError) : Action Uuid :=
  t.visit Uuid.nil fun h => do
    if (← top h).client.isNone then return Uuid.nil
    let cause := chain.head?.map Backtrace.ShownError.display
    captureIn h ⟨cause, none⟩ (Backtrace.errorEvent (← blankEvent) chain)

/-- Captures a check-in, which brings its monitor up to date if there is one. An event stands for it
on its way; what counts in the end is the check-in's own identifier. -/
def captureCheckIn (t : Target) (checkIn : CheckIn) (monitor : Option MonitorConfig) :
    Action Uuid :=
  t.visit Uuid.nil fun h => do
    let checkIn := { checkIn with monitorConfig := monitor.or checkIn.monitorConfig }
    let id ← captureIn h .none
      { ← blankEvent with kind := .checkIn, level := .info, checkIn := some checkIn }
    return if id.isNil then Uuid.nil else checkIn.id

/-- Captures a log. -/
def captureLog (t : Target) (l : Log) : Action Unit :=
  t.visit () fun h => do
    let top ← top h
    if let some c := top.client then
      let traces := (← Run.get).traces
      onClient c () fun now pace client => client.captureLog now pace traces top.scope l

/-- Captures a metric. -/
def captureMetric (t : Target) (m : Metric) : Action Unit :=
  t.visit () fun h => do
    let top ← top h
    if let some c := top.client then
      let traces := (← Run.get).traces
      onClient c () fun now pace client => client.captureMetric now pace traces top.scope m

/-- Logs a message with attributes. -/
def log (t : Target) (level : LogLevel) (attributes : List (String × Json)) (message : String) :
    Action Unit := do
  let l := Log.make level message (← now)
  captureLog t { l with attributes := .ofList (attributes.map fun e => (e.1, ⟨e.2⟩)) }

/-- Logs a message made of a template and arguments, and what it was made of with it. -/
def logTemplate (t : Target) (level : LogLevel) (attributes : List (String × Json))
    (template : String) (arguments : List Json) : Action Unit :=
  let parameters := arguments.zipIdx.map fun (a, i) =>
    ("sentry.message.parameter." ++ toString i, a)
  log t level (attributes ++ [("sentry.message.template", .str template)] ++ parameters)
    (fillTemplate template (arguments.map Json.display))

/-- Records a sample of a metric; its trace is that of the scope. -/
def record (t : Target) (kind : MetricKind) (name : String) (value : Float)
    (unit : Option String) (attributes : List (String × Json)) : Action Unit := do
  captureMetric t
    { kind, name, value, timestamp := ← now, traceId := HexId.zero 32, spanId := none, unit
      attributes := .ofList (attributes.map fun e => (e.1, ⟨e.2⟩)) }

/-- The last event that a hub sent. -/
def lastEventId (t : Target) : Action (Option Uuid) := do
  let h ← t.resolve
  return ((← Run.get).hub h).lastEventId

/-- Waits until a client has delivered everything. -/
def flushClient (c : ClientId) : Action Bool := onClient c true Client.flush

/-- Waits until everything captured in a hub is delivered. -/
def flush (t : Target) : Action Bool := do
  match (← top (← t.resolve)).client with
  | some c => flushClient c
  | none => return true

/-- Closes a client. -/
def closeClient (c : ClientId) : Action Bool := onClient c true Client.close

/-- The integration of a kind that the client of a hub has. -/
def findIntegration? (t : Target) (p : IntegrationKind → Bool) : Action (Option Integration) :=
  t.visit none fun h => do
    match (← top h).client with
    | some c => return (← client? c).bind (Client.findIntegration? p)
    | none => return none

end Action

end Telemetry
