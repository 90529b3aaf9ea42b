import Telemetry.Payload.Decode

/-! Spans and the trace context: the timed operations of a trace, their outcome, and what an event
says about the span it happened in. -/

namespace Telemetry

/-- The outcome of a span. -/
inductive SpanStatus where
  | ok
  | deadlineExceeded
  | unauthenticated
  | permissionDenied
  | notFound
  | resourceExhausted
  | invalidArgument
  | unimplemented
  | unavailable
  | internalError
  | unknown
  | cancelled
  | alreadyExists
  | failedPrecondition
  | aborted
  | outOfRange
  | dataLoss
deriving DecidableEq, Repr

namespace SpanStatus

/-- The name of a status. -/
def name : SpanStatus → String
  | .ok => "ok"
  | .deadlineExceeded => "deadline_exceeded"
  | .unauthenticated => "unauthenticated"
  | .permissionDenied => "permission_denied"
  | .notFound => "not_found"
  | .resourceExhausted => "resource_exhausted"
  | .invalidArgument => "invalid_argument"
  | .unimplemented => "unimplemented"
  | .unavailable => "unavailable"
  | .internalError => "internal_error"
  | .unknown => "unknown_error"
  | .cancelled => "cancelled"
  | .alreadyExists => "already_exists"
  | .failedPrecondition => "failed_precondition"
  | .aborted => "aborted"
  | .outOfRange => "out_of_range"
  | .dataLoss => "data_loss"

/-- Every status. -/
def all : List SpanStatus :=
  [.ok, .deadlineExceeded, .unauthenticated, .permissionDenied, .notFound, .resourceExhausted,
   .invalidArgument, .unimplemented, .unavailable, .internalError, .unknown, .cancelled,
   .alreadyExists, .failedPrecondition, .aborted, .outOfRange, .dataLoss]

/-- The status of a name. -/
def parse? (s : String) : Option SpanStatus := all.find? fun t => t.name == s

/-- The payload form of a status. -/
def json (t : SpanStatus) : Json := .str t.name

/-- Reads a status. -/
def decode : Decoder SpanStatus := .named parse? Decoder.isNull

end SpanStatus

/-- The payload form of a hexadecimal identifier. -/
def HexId.json {n : Nat} (i : HexId n) : Json := .str i.text

/-- What an event says about the span it happened in. -/
structure TraceContext where
  spanId : SpanId
  traceId : TraceId
  parentSpanId : Option SpanId
  op : Option String
  description : Option String
  status : Option SpanStatus
  data : StringMap Json
  /-- The sampling decision, which is never part of a payload. -/
  sampled : Option Bool
deriving Inhabited

namespace TraceContext

/-- The fields of a trace context, in order. -/
def fieldNames : List String :=
  ["span_id", "trace_id", "parent_span_id", "op", "description", "status", "data"]

/-- The payload form of a trace context. -/
def json (t : TraceContext) : Json :=
  Json.object [
    some ("span_id", t.spanId.json),
    some ("trace_id", t.traceId.json),
    Json.optional "parent_span_id" HexId.json t.parentSpanId,
    Json.optional "op" .str t.op,
    Json.optional "description" .str t.description,
    Json.optional "status" SpanStatus.json t.status,
    t.data.field "data" id]

/-- Reads a trace context; identifiers that are absent are drawn. -/
def decode : Decoder TraceContext :=
  .record fieldNames
    ((fun spanId traceId parentSpanId op description status data =>
        { spanId, traceId, parentSpanId, op, description, status, data, sampled := none }) <$>
      Field.drawn "span_id" (.hexId 16) Fresh.spanId <*>
      Field.drawn "trace_id" (.hexId 32) Fresh.traceId <*>
      Field.defaulted "parent_span_id" (.option (.hexId 16)) none <*>
      Field.defaulted "op" (.option .string) none <*>
      Field.defaulted "description" (.option .string) none <*>
      Field.defaulted "status" (.option SpanStatus.decode) none <*>
      Field.defaulted "data" (.map .value) ∅)

/-- A context of new identifiers. -/
def fresh (s : Fresh) : TraceContext × Fresh :=
  let (spanId, s) := s.spanId
  let (traceId, s) := s.traceId
  ({ spanId, traceId, parentSpanId := none, op := none, description := none, status := none,
     data := ∅, sampled := none }, s)

end TraceContext

/-- A timed operation within a transaction. -/
structure Span where
  spanId : SpanId
  traceId : TraceId
  parentSpanId : Option SpanId
  op : Option String
  description : Option String
  /-- The end, set when the span is finished. -/
  timestamp : Option Instant
  startTimestamp : Instant
  status : Option SpanStatus
  tags : StringMap String
  data : StringMap Json
deriving Inhabited

namespace Span

/-- The fields of a span, in order. -/
def fieldNames : List String :=
  ["span_id", "trace_id", "parent_span_id", "op", "description", "timestamp", "start_timestamp",
   "status", "tags", "data"]

/-- The payload form of a span; a time before the epoch has none. -/
def json? (t : Span) : Option Json := do
  let timestamp ← t.timestamp.mapM Instant.json?
  let startTimestamp ← t.startTimestamp.json?
  return Json.object [
    some ("span_id", t.spanId.json),
    some ("trace_id", t.traceId.json),
    Json.optional "parent_span_id" HexId.json t.parentSpanId,
    Json.optional "op" .str t.op,
    Json.optional "description" .str t.description,
    Json.optional "timestamp" id timestamp,
    some ("start_timestamp", startTimestamp),
    Json.optional "status" SpanStatus.json t.status,
    t.tags.field "tags" .str,
    t.data.field "data" id]

/-- Reads a span; identifiers and the start are drawn if absent. -/
def decode : Decoder Span :=
  .record fieldNames
    (Span.mk <$>
      Field.drawn "span_id" (.hexId 16) Fresh.spanId <*>
      Field.drawn "trace_id" (.hexId 32) Fresh.traceId <*>
      Field.defaulted "parent_span_id" (.option (.hexId 16)) none <*>
      Field.defaulted "op" (.option .string) none <*>
      Field.defaulted "description" (.option .string) none <*>
      Field.defaulted "timestamp" .optionalInstant none <*>
      Field.drawn "start_timestamp" .instant (fun s => (s.now, s)) <*>
      Field.defaulted "status" (.option SpanStatus.decode) none <*>
      Field.defaulted "tags" (.map .string) ∅ <*>
      Field.defaulted "data" (.map .value) ∅)

end Span

end Telemetry
