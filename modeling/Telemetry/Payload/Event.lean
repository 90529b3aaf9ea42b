import Telemetry.Payload.Breadcrumb
import Telemetry.Payload.CheckIn
import Telemetry.Payload.Stack

/-! Events: errors, messages and finished transactions, with everything known about where they
happened. -/

namespace Telemetry

/-- The affected user. -/
structure User where
  id : Option String
  email : Option String
  ipAddress : Option String
  username : Option String
  /-- Any other fields, side by side with the named ones in the payload. -/
  other : StringMap Json
deriving Inhabited

namespace User

/-- The fields of a user that have names. -/
def fieldNames : List String := ["id", "email", "ip_address", "username"]

/-- The payload form of a user. -/
def json (u : User) : Json :=
  Json.object ([
    Json.optional "id" .str u.id,
    Json.optional "email" .str u.email,
    Json.optional "ip_address" .str u.ipAddress,
    Json.optional "username" .str u.username] ++ u.other.entries.map some)

/-- Every field without a name of its own. -/
def otherFields : Field (StringMap Json) := fun fs s =>
  .ok (.ofList (fs.entries.filter fun e => !fieldNames.contains e.1), s)

/-- Reads a user, who is always an object. -/
def decode : Decoder User := fun j s =>
  match j with
  | .obj _ =>
    Decoder.record fieldNames
      (User.mk <$>
        Field.defaulted "id" (.option .string) none <*>
        Field.defaulted "email" (.option .string) none <*>
        Field.defaulted "ip_address" (.option .string) none <*>
        Field.defaulted "username" (.option .string) none <*>
        otherFields) j s
  | _ => .error .shape

end User

/-- The request being served. -/
structure Request where
  url : Option String
  method : Option String
  data : Option String
  queryString : Option String
  cookies : Option String
  headers : StringMap String
  env : StringMap String
deriving Inhabited

namespace Request

/-- The payload form of a request. -/
def json (r : Request) : Json :=
  Json.object [
    Json.optional "url" .str r.url,
    Json.optional "method" .str r.method,
    Json.optional "data" .str r.data,
    Json.optional "query_string" .str r.queryString,
    Json.optional "cookies" .str r.cookies,
    r.headers.field "headers" .str,
    r.env.field "env" .str]

/-- Reads a request. -/
def decode : Decoder Request :=
  .record ["url", "method", "data", "query_string", "cookies", "headers", "env"]
    (Request.mk <$>
      Field.defaulted "url" (.option .string) none <*>
      Field.defaulted "method" (.option .string) none <*>
      Field.defaulted "data" (.option .string) none <*>
      Field.defaulted "query_string" (.option .string) none <*>
      Field.defaulted "cookies" (.option .string) none <*>
      Field.defaulted "headers" (.map .string) ∅ <*>
      Field.defaulted "env" (.map .string) ∅)

end Request

/-- Typed data about the surroundings of an event. -/
inductive Context where
  | trace (t : TraceContext)
  | other (m : StringMap Json)
deriving Inhabited

namespace Context

/-- The payload form of a context, which does not say its kind. -/
def json : Context → Json
  | .trace t => t.json
  | .other m => m.json id

/-- Reads a context: a trace context if the value can be one, else any object. -/
def decode : Decoder Context := fun j s =>
  match TraceContext.decode j s with
  | .ok (t, s) => .ok (.trace t, s)
  | .error _ =>
    match Decoder.map .value j s with
    | .ok (m, s) => .ok (.other m, s)
    | .error _ => .error .shape

end Context

/-- What produced an event. -/
structure SdkInfo where
  name : String
  version : String
  integrations : List String
deriving DecidableEq, Repr, Inhabited

namespace SdkInfo

/-- The payload form of the producer. -/
def json (i : SdkInfo) : Json :=
  Json.object [
    some ("name", .str i.name),
    some ("version", .str i.version),
    Json.nonEmpty "integrations" (Json.array .str) i.integrations]

/-- Reads a producer. -/
def decode : Decoder SdkInfo :=
  .record ["name", "version", "integrations"]
    (SdkInfo.mk <$>
      Field.required "name" .string <*>
      Field.required "version" .string <*>
      Field.defaulted "integrations" (.list .string) [])

end SdkInfo

/-- What kind of item an event turns into. -/
inductive EventKind where
  | default
  | transaction
  | checkIn
deriving DecidableEq, Repr, Inhabited

/-- An event. -/
structure Event where
  id : Uuid
  level : Level
  fingerprint : List String
  culprit : Option String
  transaction : Option String
  message : Option String
  logger : Option String
  platform : String
  timestamp : Instant
  startTimestamp : Option Instant
  serverName : Option String
  release : Option String
  environment : Option String
  user : Option User
  request : Option Request
  contexts : StringMap Context
  breadcrumbs : List Breadcrumb
  exceptions : List Exception
  stacktrace : Option Stacktrace
  tags : StringMap String
  extra : StringMap Json
  spans : List Span
  sdk : Option SdkInfo
  /-- The kind of event, which is never part of the payload. -/
  kind : EventKind
  /-- The check-in an event of that kind stands for. -/
  checkIn : Option CheckIn
deriving Inhabited

namespace Event

/-- The fields of an event, in order. -/
def fieldNames : List String :=
  ["event_id", "level", "fingerprint", "culprit", "transaction", "message", "logger", "platform",
   "timestamp", "start_timestamp", "server_name", "release", "environment", "user", "request",
   "contexts", "breadcrumbs", "exception", "stacktrace", "tags", "extra", "spans", "sdk"]

/-- An event without content. -/
def empty (id : Uuid) (now : Instant) : Event :=
  { id, level := .error, fingerprint := [], culprit := none, transaction := none, message := none,
    logger := none, platform := "native", timestamp := now, startTimestamp := none,
    serverName := none, release := none, environment := none, user := none, request := none,
    contexts := ∅, breadcrumbs := [], exceptions := [], stacktrace := none, tags := ∅, extra := ∅,
    spans := [], sdk := none, kind := .default, checkIn := none }

/-- An event of this moment with a new identifier. -/
def fresh (s : Fresh) : Event × Fresh := (empty s.uuid.1 s.now, s.uuid.2)

/-- The payload form of an event; a time before the epoch has none. -/
def json? (e : Event) : Option Json := do
  let timestamp ← e.timestamp.json?
  let startTimestamp ← e.startTimestamp.mapM Instant.json?
  let breadcrumbs ← e.breadcrumbs.mapM Breadcrumb.json?
  let spans ← e.spans.mapM Span.json?
  return Json.object [
    some ("event_id", e.id.json),
    some ("level", e.level.json),
    Json.nonEmpty "fingerprint" (Json.array .str) e.fingerprint,
    Json.optional "culprit" .str e.culprit,
    Json.optional "transaction" .str e.transaction,
    Json.optional "message" .str e.message,
    Json.optional "logger" .str e.logger,
    some ("platform", .str e.platform),
    some ("timestamp", timestamp),
    Json.optional "start_timestamp" (fun j => j) startTimestamp,
    Json.optional "server_name" .str e.serverName,
    Json.optional "release" .str e.release,
    Json.optional "environment" .str e.environment,
    Json.optional "user" User.json e.user,
    Json.optional "request" Request.json e.request,
    e.contexts.field "contexts" Context.json,
    Json.nonEmpty "breadcrumbs" .arr breadcrumbs,
    Json.nonEmpty "exception" (Json.array Exception.json) e.exceptions,
    Json.optional "stacktrace" Stacktrace.json e.stacktrace,
    e.tags.field "tags" .str,
    e.extra.field "extra" fun j => j,
    Json.nonEmpty "spans" .arr spans,
    Json.optional "sdk" SdkInfo.json e.sdk]

/-- Reads an event; the time is drawn if absent. -/
def decode : Decoder Event :=
  .record fieldNames
    (Event.mk <$>
      Field.required "event_id" .uuid <*>
      Field.required "level" Level.decode <*>
      Field.defaulted "fingerprint" (.list .string) [] <*>
      Field.defaulted "culprit" (.option .string) none <*>
      Field.defaulted "transaction" (.option .string) none <*>
      Field.defaulted "message" (.option .string) none <*>
      Field.defaulted "logger" (.option .string) none <*>
      Field.defaulted "platform" .string "native" <*>
      Field.drawn "timestamp" .instant (fun s => (s.now, s)) <*>
      Field.defaulted "start_timestamp" .optionalInstant none <*>
      Field.defaulted "server_name" (.option .string) none <*>
      Field.defaulted "release" (.option .string) none <*>
      Field.defaulted "environment" (.option .string) none <*>
      Field.defaulted "user" (.option User.decode) none <*>
      Field.defaulted "request" (.option Request.decode) none <*>
      Field.defaulted "contexts" (.map Context.decode) ∅ <*>
      Field.defaulted "breadcrumbs" (.list Breadcrumb.decode) [] <*>
      Field.defaulted "exception" (.list Exception.decode) [] <*>
      Field.defaulted "stacktrace" (.option Stacktrace.decode) none <*>
      Field.defaulted "tags" (.map .string) ∅ <*>
      Field.defaulted "extra" (.map .value) ∅ <*>
      Field.defaulted "spans" (.list Span.decode) [] <*>
      Field.defaulted "sdk" (.option SdkInfo.decode) none <*>
      pure .default <*>
      pure none)

/-- The trace context of an event. -/
def traceContext? (e : Event) : Option TraceContext :=
  match e.contexts.get? "trace" with
  | some (.trace t) => some t
  | _ => none

end Event

end Telemetry
