import Telemetry.Scope
import Telemetry.Transport.Basic

/-! Clients: options that were checked, the integrations and patterns that go with them, a transport
and the emitters of logs and metrics. Closing a client lets go of its transport for good. -/

namespace Telemetry

/-- A client. -/
structure Client where
  /-- The options in force, with everything the integrations changed. -/
  options : ClientOptions
  /-- The integrations, one of each name. -/
  integrations : List Integration
  patterns : IgnorePatterns
  /-- What the client says about itself. -/
  sdk : SdkInfo
  transport : Option Transport
  /-- Whether the transport still gets anything. -/
  attached : Bool
  logs : Option (Emitter Log)
  metrics : Option (Emitter Metric)

namespace Client

/-- Of integrations with one name the first. -/
def distinct : List Integration → List Integration
  | [] => []
  | i :: is => i :: (distinct is).filter fun j => j.name ≠ i.name

/-- The options after the setup of the integrations, one after the other. -/
def setUp (integrations : List Integration) (s : Settings) : Settings :=
  integrations.foldl (fun s i => i.setup s) s

/-- What is said about a new client. -/
def creationDiagnostics (o : ClientOptions) (integrations : List Integration) (s : Settings) :
    List Diagnostic :=
  [.debug ("[Client] Creating new client, dsn=" ++
    Quoted.option Quoted.text (o.dsn.map Dsn.text))] ++
  integrations.map (fun i => .debug ("[Client] Setting up integration: " ++ i.name)) ++
  match s.dsn, s.transport with
  | some _, some kind => Transport.newDiagnostics kind
  | some _, none => [.debug "[Client] No transport factory configured"]
  | none, _ => []

/-- A client of options that are in order. -/
def create [PatternLanguage] (o : ClientOptions) :
    Except ConfigError (Client × List Diagnostic) := do
  let patterns ← o.compile
  let integrations := distinct o.integrations
  let s := setUp integrations o.toSettings
  let transport := s.dsn.bind fun _ => s.transport.map (Transport.new s)
  return (
    { options := { s with integrations := o.integrations }, integrations, patterns
      sdk := { sdkInfo with integrations := integrations.map Integration.name }
      transport, attached := transport.isSome
      logs := if s.enableLogs then some (Emitter.new s.logConfig).start else none
      metrics := if s.enableMetrics then some (Emitter.new s.metricConfig).start else none },
    creationDiagnostics o integrations s)

/-- A client that does nothing. -/
def disabled (o : ClientOptions) : Client :=
  { options :=
      { o with
        dsn := none, enableLogs := false, enableMetrics := false, ignoreErrors := [],
        ignoreTransactions := [] }
    integrations := [], patterns := ⟨[], []⟩, sdk := sdkInfo, transport := none, attached := false,
    logs := none, metrics := none }

/-- What is said about a client that is disabled because its options are not in order. -/
def disabledDiagnostic (e : ConfigError) : Diagnostic :=
  .warn ("[Client] Invalid options, client disabled: " ++ e.message)

/-- The transport, as long as the client has not let go of it. -/
def current? (c : Client) : Option Transport := if c.attached then c.transport else none

/-- Whether there is somewhere to send to. -/
def isEnabled (c : Client) : Bool := c.options.dsn.isSome && c.current?.isSome

/-- A client as debugging output shows it. -/
def debug (c : Client) : String :=
  Quoted.record "Client" [
    ("dsn", Quoted.option Dsn.debug c.options.dsn), ("options", c.options.debug)]

/-- The first integration of a kind. -/
def findIntegration? (p : IntegrationKind → Bool) (c : Client) : Option Integration :=
  c.integrations.find? fun i => p i.kind

/-- The extractors of the integration that reports panics, if there is one. -/
def panicExtractors? (c : Client) : Option (List (String → Event → Option Event)) :=
  c.integrations.findSome? fun i =>
    match i.kind with
    | .panic extractors => some extractors
    | .custom _ => none

/-- Whether the transport holds a category back. -/
def isLimited (now : Instant) (category : Category) (c : Client) : Bool :=
  match c.current? with
  | some t => t.isLimited now category
  | none => false

/-- A decision at a rate; a number is drawn only if the rate leaves it open. -/
def sampleWith {m : Type → Type} [Monad m] (unit : m Float32) (rate : Float32) : m Bool := do
  if rate ≥ 1 || rate ≤ 0 then return keptAtRate rate 0
  return keptAtRate rate (← unit)

/-- A decision at a rate with a number of the stream. -/
def sampleAt (rate : Float32) (s : Fresh) : Bool × Fresh :=
  Id.run ((sampleWith (m := StateM Fresh) Fresh.unit rate).run s)

/-- Decides whether a transaction is sampled. -/
def sampleTransaction (t : TransactionContext) (c : Client) (s : Fresh) : Bool × Fresh :=
  sampleAt (c.options.transactionRate t) s

end Client

end Telemetry
