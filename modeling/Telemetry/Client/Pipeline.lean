import Telemetry.Client.Basic

/-! The way of an event through a client: it is completed, the scope is applied, the integrations
have their say, patterns and sampling may stop it, and a last callback may change or stop it. Every
stage works on what the stage before it left. What an event meets on its way may have effects of any
kind. -/

namespace Telemetry.Client

/-- What an event meets on its way. -/
structure Passage (m : Type → Type) where
  /-- Draws an identifier. -/
  uuid : m Uuid
  /-- Draws a number from 0 up to below 1. -/
  unit : m Float32
  processors : List (Stage m)
  integrations : List (Stage m)
  beforeSend : Option (Stage m)
  beforeSendTransaction : Option (Stage m)
  /-- Whether the transport holds a category back. -/
  isLimited : Category → m Bool
  send : Envelope → m Unit

/-- The last callback for a kind of event. -/
def Passage.last {m : Type → Type} (k : Passage m) : EventKind → Option (Stage m)
  | .default => k.beforeSend
  | .transaction => k.beforeSendTransaction
  | .checkIn => none

/-- Completes an event with what the client knows. `stack` is the stack of the moment. -/
def complete (stack : Option Stacktrace) (c : Client) (e : Event) : Event :=
  let wantsStack := c.options.attachStacktrace && e.kind = .default && e.exceptions.isEmpty &&
    e.stacktrace.isNone
  { e with
    sdk := e.sdk.or (some c.sdk)
    release := e.release.or c.options.release
    environment := e.environment.or c.options.environment
    serverName := e.serverName.or c.options.serverName
    stacktrace := if wantsStack then stack else e.stacktrace }

/-- An event with everything that the client and the scope know. -/
def fillIn (stack : Option Stacktrace) (traces : Traces) (scope : Option Scope) (c : Client)
    (e : Event) : Event :=
  let e := c.complete stack e
  match scope with
  | some scope => scope.fill traces e
  | none => e

/-- The texts of an error that patterns are looked for in. -/
def exceptionTexts (x : Exception) : List String :=
  x.type :: (match x.value with
    | some v => [v, x.type ++ ": " ++ v]
    | none => [])

/-- The texts of an event that patterns are looked for in. -/
def candidates (e : Event) : List String :=
  e.message.toList ++ e.exceptions.flatMap exceptionTexts

/-- The first pattern that an event is ignored by. -/
def ignoredBy? (p : IgnorePatterns) (e : Event) : Option String :=
  match e.kind with
  | .default =>
    (p.errors.find? fun i => (candidates e).any i.isFoundIn).map IgnorePattern.text
  | .transaction =>
    match e.transaction with
    | some name => (p.transactions.find? fun i => i.isFoundIn name).map IgnorePattern.text
    | none => none
  | .checkIn => none

section

variable {m : Type → Type} [Monad m]

/-- The integrations as stages. -/
def stages (c : Client) : List (Stage m) :=
  c.integrations.map fun i => .ofFunction (.integration i.name) (i.process c.options.toSettings)

/-- A last callback as a stage. -/
def lastStage (hint : EventHint) (f : Event → EventHint → Option Event) : Stage m :=
  .ofFunction .beforeSend fun e => f e hint

/-- Gives an event an identifier if it has none. -/
def identify (uuid : m Uuid) (e : Event) : m Event := do
  if e.id.isNil then return { e with id := ← uuid }
  return e

/-- Stops an event that is ignored. -/
def ignore (p : IgnorePatterns) (e : Event) : ExceptT EventDrop m Unit :=
  match ignoredBy? p e with
  | some text => throw (.ignored e.id text)
  | none => pure ()

/-- Stops an event that is not sampled: errors by their rate, transactions by the decision they
carry, and check-ins never. -/
def sample (rate : Float32) (unit : m Float32) (e : Event) : ExceptT EventDrop m Unit :=
  match e.kind with
  | .transaction =>
    if e.traceContext?.bind TraceContext.sampled = some false then throw (.notSampled e.id)
    else pure ()
  | .default => do
    if ← (sampleWith unit rate : m Bool) then return ()
    throw (.sampledOut e.id rate)
  | .checkIn => pure ()

/-- Takes an event through the stages after the integrations. -/
def finish (k : Passage m) (c : Client) (e : Event) : ExceptT EventDrop m Event := do
  ignore c.patterns e
  sample c.options.sampleRate k.unit e
  Stage.askAll (k.last e.kind).toList e

/-- Takes an event through all stages. -/
def prepare (k : Passage m) (stack : Option Stacktrace) (traces : Traces) (scope : Option Scope)
    (c : Client) (e : Event) : ExceptT EventDrop m Event := do
  let e ← (identify k.uuid e : m Event)
  let e ← Stage.askAll k.processors (c.fillIn stack traces scope e)
  c.finish k (← Stage.askAll k.integrations e)

end

/-- What a client decides about an event. -/
inductive Verdict where
  /-- There is no transport, or no longer. -/
  | noTransport (id : Uuid)
  | dropped (d : EventDrop)
  /-- The transport holds the category back. -/
  | limited (id : Uuid) (category : Category)
  | sent (e : Event)

namespace Verdict

/-- The identifier of what was sent, or of nothing. -/
def id : Verdict → Uuid
  | .sent e => e.id
  | _ => Uuid.nil

/-- What is said about a verdict. -/
def diagnostics : Verdict → List Diagnostic
  | .noTransport id =>
    [.debug ("[Client] No transport available, dropping event " ++ id.hyphenated)]
  | .dropped d => [.debug d.message]
  | .limited id category =>
    [.info ("[Client] Skipping event " ++ id.hyphenated ++ " due to rate limits for " ++
      category.name)]
  | .sent _ => []

end Verdict

/-- Takes an event through all stages and sends what is left of it. -/
def process {m : Type → Type} [Monad m] (k : Passage m) (stack : Option Stacktrace)
    (traces : Traces) (scope : Option Scope) (c : Client) (e : Event) : m Verdict := do
  if c.current?.isNone then return .noTransport e.id
  match ← (c.prepare k stack traces scope e).run with
  | .error d => return .dropped d
  | .ok e =>
    let item := Item.ofEvent e
    if ← k.isLimited item.category then return .limited e.id item.category
    k.send (.ofItem item)
    return .sent e

end Telemetry.Client
