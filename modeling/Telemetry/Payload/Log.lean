import Telemetry.Json.Printer
import Telemetry.Payload.Span

/-! Structured logs and metrics, and the typed attributes both carry. -/

namespace Telemetry

/-- The severity of a log. -/
inductive LogLevel where
  | trace
  | debug
  | info
  | warn
  | error
  | fatal
deriving DecidableEq, Repr

namespace LogLevel

/-- The name of a severity. -/
def name : LogLevel → String
  | .trace => "trace"
  | .debug => "debug"
  | .info => "info"
  | .warn => "warn"
  | .error => "error"
  | .fatal => "fatal"

/-- The severity of a name. -/
def parse? (s : String) : Option LogLevel :=
  [trace, debug, info, warn, error, fatal].find? fun t => t.name == s

/-- The number of a severity: four steps apart, from 1 on. -/
def severityNumber : LogLevel → Nat
  | .trace => 1
  | .debug => 5
  | .info => 9
  | .warn => 13
  | .error => 17
  | .fatal => 21

/-- Reads a severity. -/
def decode : Decoder LogLevel := .named parse? Decoder.isNull

end LogLevel

/-- An attribute of a log or metric: any value. -/
structure Attribute where
  value : Json

namespace Attribute

/-- The value and the name of its type; a value without a type of its own is written as a string. -/
def json (a : Attribute) : Json :=
  let (value, type) : Json × String := match a.value with
    | .str s => (.str s, "string")
    | .bool b => (.bool b, "boolean")
    | .float x => (.float x, "double")
    | .int n => (.int n, "integer")
    | other => (.str other.render, "string")
  .obj [("value", value), ("type", .str type)]

/-- Reads an attribute. -/
def decode : Decoder Attribute := .plain fun j => .ok ⟨j⟩

end Attribute

/-- A structured log. -/
structure Log where
  level : LogLevel
  body : String
  traceId : Option TraceId
  timestamp : Instant
  severityNumber : Option UInt8
  attributes : StringMap Attribute

namespace Log

/-- A log of this moment. -/
def make (level : LogLevel) (body : String) (now : Instant) : Log :=
  { level, body, traceId := none, timestamp := now, severityNumber := none, attributes := ∅ }

/-- The fields of a log, in order. -/
def fieldNames : List String :=
  ["level", "body", "trace_id", "timestamp", "severity_number", "attributes"]

/-- The payload form of a log; a time before the epoch has none. -/
def json? (l : Log) : Option Json := do
  let timestamp ← l.timestamp.json?
  return Json.object [
    some ("level", .str l.level.name),
    some ("body", .str l.body),
    Json.optional "trace_id" HexId.json l.traceId,
    some ("timestamp", timestamp),
    Json.optional "severity_number" (fun n => .int n.toNat) l.severityNumber,
    l.attributes.field "attributes" Attribute.json]

/-- Reads a log. -/
def decode : Decoder Log :=
  .record fieldNames
    (Log.mk <$>
      Field.required "level" LogLevel.decode <*>
      Field.required "body" .string <*>
      Field.defaulted "trace_id" (.option (.hexId 32)) none <*>
      Field.required "timestamp" .instant <*>
      Field.defaulted "severity_number" (.option .uint8) none <*>
      Field.defaulted "attributes" (.map Attribute.decode) ∅)

end Log

/-- What a metric records. -/
inductive MetricKind where
  | counter
  | gauge
  | distribution
deriving DecidableEq, Repr

namespace MetricKind

/-- The name of a kind. -/
def name : MetricKind → String
  | .counter => "counter"
  | .gauge => "gauge"
  | .distribution => "distribution"

/-- The kind of a name. -/
def parse? (s : String) : Option MetricKind :=
  [counter, gauge, distribution].find? fun t => t.name == s

end MetricKind

/-- One sample of a metric. -/
structure Metric where
  kind : MetricKind
  name : String
  value : Float
  timestamp : Instant
  traceId : TraceId
  spanId : Option SpanId
  unit : Option String
  attributes : StringMap Attribute

namespace Metric

/-- The fields of a metric, in order. -/
def fieldNames : List String :=
  ["type", "name", "value", "timestamp", "trace_id", "span_id", "unit", "attributes"]

/-- The payload form of a metric; a time before the epoch has none. -/
def json? (m : Metric) : Option Json := do
  let timestamp ← m.timestamp.json?
  return Json.object [
    some ("type", .str m.kind.name),
    some ("name", .str m.name),
    some ("value", .float m.value),
    some ("timestamp", timestamp),
    some ("trace_id", m.traceId.json),
    Json.optional "span_id" HexId.json m.spanId,
    Json.optional "unit" .str m.unit,
    m.attributes.field "attributes" Attribute.json]

/-- Reads a metric. -/
def decode : Decoder Metric :=
  .record fieldNames
    (Metric.mk <$>
      Field.required "type" (.named MetricKind.parse? Decoder.isNull) <*>
      Field.required "name" .string <*>
      Field.required "value" .float <*>
      Field.required "timestamp" .instant <*>
      Field.required "trace_id" (.hexId 32) <*>
      Field.defaulted "span_id" (.option (.hexId 16)) none <*>
      Field.defaulted "unit" (.option .string) none <*>
      Field.defaulted "attributes" (.map Attribute.decode) ∅)

end Metric

end Telemetry
