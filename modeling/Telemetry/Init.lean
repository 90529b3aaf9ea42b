import Telemetry.Defaults
import Telemetry.Hub.Capture

/-! Starting up: a client is made of options, and a program that initializes the library binds its
client to the hub in use. Options that are not in order change nothing. -/

namespace Telemetry

namespace Action

/-- Adds a client. -/
def addClient (client : Client) : Action ClientId :=
  .modifyGet fun w => (w.clients.length, { w with clients := w.clients ++ [client] })

/-- Makes a client of options that are in order. With the integration for panics in it, panics are
noticed from now on. -/
def newClient [PatternLanguage] (o : ClientOptions) :
    Action (Except ConfigError ClientId) := do
  match Client.create o with
  | .error e => return .error e
  | .ok (client, diagnostics) =>
    discard currentHub
    tell diagnostics
    if client.panicExtractors?.isSome then Run.modify fun w => { w with hooked := true }
    return .ok (← addClient client)

/-- Makes a client of any options; one that does nothing if they are not in order. -/
def newClientOrDisabled [PatternLanguage] (o : ClientOptions) : Action ClientId := do
  match ← newClient o with
  | .ok c => return c
  | .error e =>
    tell [Client.disabledDiagnostic e]
    addClient (.disabled o)

end Action

/-- What a program holds on to after it has initialized the library. -/
structure InitGuard where
  client : ClientId
deriving DecidableEq, Repr

namespace InitGuard

/-- Initializes the library. -/
def new [Host.Names] [PatternLanguage] (env : Environment) (o : ClientOptions) :
    Action (Except ConfigError InitGuard) := do
  match ← Action.newClient (o.withDefaults env) with
  | .error e => return .error e
  | .ok c =>
    Action.bindClient (← Action.currentHub) (some c)
    match (← Action.client? c).bind fun client => client.options.dsn with
    | some dsn => Action.debug ("[init] Enabled client for DSN " ++ dsn.text)
    | none => Action.debug "[init] Initialized disabled client, no DSN configured"
    return .ok ⟨c⟩

/-- Closes the client. -/
def drop (g : InitGuard) : Action Unit := do
  if (← Run.get).isEnabled g.client then
    Action.debug "[init] Dropping client guard -> disposing client"
  else Action.debug "[init] Dropping client guard (no client to dispose)"
  discard <| Action.closeClient g.client

end InitGuard

/-- A DSN as a program gives it. -/
inductive DsnInput where
  | none
  | text (s : String)
  | dsn (d : Dsn)

/-- Options with the DSN that a program gives, which counts even if it is none. -/
def ClientOptions.withInput [Host.Names] (o : ClientOptions) :
    DsnInput → Except ConfigError ClientOptions
  | .none => .ok { o with dsn := .none }
  | .text s => o.withDsn s
  | .dsn d => .ok { o with dsn := some d }

/-- What a program initializes the library with. -/
inductive Configuration where
  | dsn (d : DsnInput)
  | pair (d : DsnInput) (o : ClientOptions)
  | options (o : ClientOptions)

namespace Configuration

/-- The options that a configuration stands for. -/
def read [Host.Names] : Configuration → Except ConfigError ClientOptions
  | .dsn d => ClientOptions.default.withInput d
  | .pair d o => o.withInput d
  | .options o => .ok o

/-- Initializes the library. -/
def init [Host.Names] [PatternLanguage] (env : Environment) (c : Configuration) :
    Action (Except ConfigError InitGuard) :=
  match c.read with
  | .error e => return .error e
  | .ok o => InitGuard.new env o

end Configuration

end Telemetry
