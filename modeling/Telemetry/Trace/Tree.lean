import Telemetry.Payload.Event
import Telemetry.Trace.Header

/-! Running transactions and their spans. A transaction is the root of a tree of spans; a span is
recorded on its transaction when it is first finished, and a transaction that is sampled turns into
an event when it is first finished. Handles of one node share its state, so the state of all nodes
is kept in one place and a handle is a number. -/

namespace Telemetry

/-- The number of a client. -/
abbrev ClientId := Nat

/-- What a sampled transaction collects until it is finished. -/
structure TransactionData where
  /-- The spans finished so far, the first one first. -/
  spans : List Span
  extra : StringMap Json
  tags : StringMap String
  request : Option Request

/-- The state of a transaction. -/
structure Transaction where
  /-- The client that gets the event; a transaction that is not sampled has none. -/
  client : Option ClientId
  sampled : Bool
  name : Option String
  startTimestamp : Instant
  context : TraceContext
  /-- What was collected, until the transaction is finished. -/
  data : Option TransactionData

/-- The state of a span. -/
structure RunningSpan where
  /-- The number of its transaction. -/
  transaction : Nat
  sampled : Bool
  span : Span

/-- A transaction or a span, by its number. -/
inductive Node where
  | transaction (i : Nat)
  | span (i : Nat)
deriving DecidableEq, Repr

/-- Every transaction and span started so far. -/
structure Traces where
  transactions : List Transaction
  spans : List RunningSpan

/-- The most spans that a transaction records. -/
def maxSpans : Nat := 1000

namespace Transaction

/-- A new transaction with its sampling decision. -/
def start (client : Option ClientId) (sampled : Bool) (c : TransactionContext) (spanId : SpanId)
    (now : Instant) : Transaction :=
  let client := if sampled then client else none
  { client, sampled, name := some c.name, startTimestamp := now
    context :=
      { spanId, traceId := c.traceId, parentSpanId := c.parentSpanId, op := some c.operation,
        description := none, status := none, data := ∅, sampled := some sampled }
    data := client.map fun _ => ⟨[], ∅, ∅, none⟩ }

/-- Changes what was collected, if anything still is. -/
def collect (f : TransactionData → TransactionData) (t : Transaction) : Transaction :=
  { t with data := t.data.map f }

/-- Records a finished span, unless there are too many. -/
def record (s : Span) (t : Transaction) : Transaction :=
  t.collect fun d => if d.spans.length < maxSpans then { d with spans := d.spans ++ [s] } else d

/-- The event of a finished transaction; `blank` gives its identifier and its time. -/
def event (blank : Event) (d : TransactionData) (t : Transaction) : Event :=
  { blank with
    kind := .transaction, level := .info, transaction := t.name,
    startTimestamp := some t.startTimestamp,
    contexts := StringMap.ofList [("trace", .trace t.context)], spans := d.spans, extra := d.extra,
    tags := d.tags, request := d.request }

end Transaction

namespace Traces

/-- Nothing started yet. -/
def empty : Traces := ⟨[], []⟩

instance : Inhabited Traces := ⟨empty⟩

/-- Adds a transaction. -/
def addTransaction (t : Transaction) (s : Traces) : Node × Traces :=
  (.transaction s.transactions.length, { s with transactions := s.transactions ++ [t] })

/-- Changes a transaction. -/
def updateTransaction (i : Nat) (f : Transaction → Transaction) (s : Traces) : Traces :=
  { s with transactions := s.transactions.modify i f }

/-- Changes a span. -/
def updateSpan (i : Nat) (f : Span → Span) (s : Traces) : Traces :=
  { s with spans := s.spans.modify i fun r => { r with span := f r.span } }

/-- What a node hands on to other services, or to an event that happens in it. -/
def header? (s : Traces) : Node → Option TraceHeader
  | .transaction i =>
    s.transactions[i]?.map fun t => ⟨t.context.traceId, t.context.spanId, some t.sampled⟩
  | .span i => s.spans[i]?.map fun r => ⟨r.span.traceId, r.span.spanId, some r.sampled⟩

/-- The transaction of a node. -/
def root? (s : Traces) : Node → Option Nat
  | .transaction i => some i
  | .span i => s.spans[i]?.map RunningSpan.transaction

/-- The status of a node. -/
def status? (s : Traces) : Node → Option SpanStatus
  | .transaction i => s.transactions[i]?.bind fun t => t.context.status
  | .span i => s.spans[i]?.bind fun r => r.span.status

/-- Starts a span below a node. -/
def startChild (n : Node) (op description : String) (spanId : SpanId) (now : Instant) (s : Traces) :
    Option (Node × Traces) := do
  let parent ← s.header? n
  let transaction ← s.root? n
  let span : Span :=
    { spanId, traceId := parent.traceId, parentSpanId := some parent.spanId, op := some op,
      description := if description.isEmpty then none else some description, timestamp := none,
      startTimestamp := now, status := none, tags := ∅, data := ∅ }
  return (.span s.spans.length,
    { s with spans := s.spans ++ [⟨transaction, parent.sampled == some true, span⟩] })

/-- Attaches data to a node. -/
def setData (n : Node) (key : String) (value : Json) (s : Traces) : Traces :=
  match n with
  | .transaction i =>
    s.updateTransaction i (·.collect fun d => { d with extra := d.extra.insert key value })
  | .span i => s.updateSpan i fun p => { p with data := p.data.insert key value }

/-- Attaches a tag to a node. -/
def setTag (n : Node) (key value : String) (s : Traces) : Traces :=
  match n with
  | .transaction i =>
    s.updateTransaction i (·.collect fun d => { d with tags := d.tags.insert key value })
  | .span i => s.updateSpan i fun p => { p with tags := p.tags.insert key value }

/-- Sets the status of a node. -/
def setStatus (n : Node) (status : SpanStatus) (s : Traces) : Traces :=
  match n with
  | .transaction i =>
    s.updateTransaction i fun t => { t with context := { t.context with status := some status } }
  | .span i => s.updateSpan i fun p => { p with status := some status }

/-- Renames a transaction. -/
def setName (i : Nat) (name : String) (s : Traces) : Traces :=
  s.updateTransaction i fun t => { t with name := some name }

/-- Sets the request that a transaction serves. -/
def setRequest (i : Nat) (r : Request) (s : Traces) : Traces :=
  s.updateTransaction i (·.collect fun d => { d with request := some r })

/-- Finishes a span: the first time, it gets its end and is recorded on its transaction. -/
def finishSpan (i : Nat) (now : Instant) (s : Traces) : Traces :=
  match s.spans[i]? with
  | none => s
  | some r =>
    if r.span.timestamp.isSome then s
    else
      let span := { r.span with timestamp := some now }
      (s.updateSpan i fun _ => span).updateTransaction r.transaction (·.record span)

/-- Finishes a transaction: the first time, if it is sampled, its client gets its event. -/
def finishTransaction (i : Nat) (blank : Event) (s : Traces) :
    Option (ClientId × Event) × Traces :=
  match s.transactions[i]? with
  | none => (none, s)
  | some t =>
    let s := s.updateTransaction i fun t => { t with data := none, client := none }
    match t.data, t.client with
    | some d, some client => (some (client, t.event blank d), s)
    | _, _ => (none, s)

/-- What an event that happens in a node says about it. -/
def context? (s : Traces) : Node → Option TraceContext
  | .transaction i => s.transactions[i]?.map Transaction.context
  | .span i =>
    s.spans[i]?.map fun r =>
      { spanId := r.span.spanId, traceId := r.span.traceId, parentSpanId := none, op := r.span.op,
        description := none, status := none, data := ∅, sampled := none }

/-- Adds the trace of a node to an event that has none; a transaction also gives its name. -/
def applyToEvent (s : Traces) (n : Node) (e : Event) : Event :=
  if e.contexts.contains "trace" then e
  else
    let name := match n with
      | .transaction i => s.transactions[i]?.bind Transaction.name
      | .span _ => none
    match s.context? n with
    | some c =>
      { e with
        transaction := e.transaction.or name
        contexts := e.contexts.insert "trace" (.trace c) }
    | none => e

/-- The context that continues the trace of a node. -/
def continueFrom (s : Traces) (name operation : String) (n : Node) (f : Fresh) :
    TransactionContext × Fresh :=
  match s.header? n with
  | some h => (TransactionContext.continuing name operation h, f)
  | none => TransactionContext.new name operation f

end Traces

end Telemetry
