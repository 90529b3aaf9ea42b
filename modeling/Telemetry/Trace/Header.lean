import Telemetry.Fresh
import Telemetry.Text.Blank

/-! The trace header, which names a trace, the span that hands it on and, if there is one, the
decision whether the trace is recorded. -/

namespace Telemetry

/-- What one service tells the next about a trace. -/
structure TraceHeader where
  traceId : TraceId
  spanId : SpanId
  sampled : Option Bool
deriving DecidableEq

namespace TraceHeader

/-- The name of the header. -/
def name : String := "sentry-trace"

/-- The wording for a value that is no trace header. -/
def errorMessage : String := "invalid sentry-trace header"

/-- The decision as a digit. -/
def flagText (b : Bool) : String := if b then "1" else "0"

/-- The value of the header. -/
def text (h : TraceHeader) : String :=
  h.traceId.text ++ "-" ++ h.spanId.text ++
    (match h.sampled with | some b => "-" ++ flagText b | none => "")

/-- The text in front of the first hyphen, and what follows it, if there is one. -/
def splitHyphen (cs : List Char) : List Char × Option (List Char) :=
  (cs.takeWhile (· ≠ '-'),
    match cs.dropWhile (· ≠ '-') with
    | [] => none
    | _ :: rest => some rest)

/-- The identifier a text is. -/
def id? (n : Nat) (cs : List Char) : Option (HexId n) :=
  match HexId.parse n (String.ofList cs) with
  | .ok i => some i
  | .error _ => none

/-- The decision of a flag; a flag that is neither digit decides nothing. -/
def decision (flag : List Char) : Option Bool :=
  if flag = ['1'] then some true else if flag = ['0'] then some false else none

/-- Reads the value of a trace header. -/
def parse? (s : String) : Option TraceHeader := do
  let (trace, rest) := splitHyphen (trimList isBlank s.toList)
  let traceId ← id? 32 trace
  let (span, flag) := splitHyphen (← rest)
  let spanId ← id? 16 span
  return { traceId, spanId, sampled := flag.bind decision }

/-- A header of new identifiers that decides nothing. -/
def fresh (s : Fresh) : TraceHeader × Fresh :=
  let (traceId, s) := s.traceId
  let (spanId, s) := s.spanId
  ({ traceId, spanId, sampled := none }, s)

/-- The one header that hands a trace on. -/
def headers (h : TraceHeader) : List (String × String) := [(name, h.text)]

end TraceHeader

/-- The name, the operation and the trace of a transaction about to start. -/
structure TransactionContext where
  name : String
  operation : String
  traceId : TraceId
  parentSpanId : Option SpanId
  /-- The decision that comes with the trace. -/
  sampled : Option Bool
deriving DecidableEq

namespace TransactionContext

/-- A text with its ASCII capitals made small. -/
def lowerAscii (s : String) : String := s.map Char.toLower

/-- The trace header among a list of headers: what the last one of that name says. -/
def traceHeader? (headers : List (String × String)) : Option TraceHeader :=
  headers.foldl
    (fun found h => if lowerAscii h.1 = TraceHeader.name then TraceHeader.parse? h.2 else found)
    none

/-- The context that continues the trace of a header. -/
def continuing (name operation : String) (h : TraceHeader) : TransactionContext :=
  { name, operation, traceId := h.traceId, parentSpanId := some h.spanId, sampled := h.sampled }

/-- The context that continues the trace of the headers, or starts one. -/
def ofHeaders (name operation : String) (headers : List (String × String)) (s : Fresh) :
    TransactionContext × Fresh :=
  match traceHeader? headers with
  | some h => (continuing name operation h, s)
  | none =>
    let (traceId, s) := s.traceId
    ({ name, operation, traceId, parentSpanId := none, sampled := none }, s)

/-- The context of a new trace. -/
def new (name operation : String) (s : Fresh) : TransactionContext × Fresh :=
  ofHeaders name operation [] s

end TransactionContext

/-- Whether something is kept at a rate: always from 1 on, never up to 0, and else if the draw says
so. -/
def keptAtRate (rate : Float32) (draw : Float32) : Bool :=
  if rate ≥ 1 then true else if rate ≤ 0 then false else draw < rate

end Telemetry
