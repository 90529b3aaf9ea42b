import Telemetry.Trace.Tree

/-! What programs do to transactions and spans, one operation after the other. Handles of a node may
be copied, so any node may be used at any time and any number of times. Beside the traces, a
recording keeps what was done: the node on which each span was started, the spans in the order in
which they were first finished, and the events handed to clients. The outline of the traces is the
part of them that only starting and finishing change. -/

namespace Telemetry

/-- What a program does to the nodes of traces. -/
inductive Operation where
  | start (client : Option ClientId) (sampled : Bool) (c : TransactionContext) (spanId : SpanId)
      (now : Instant)
  | startChild (n : Node) (op description : String) (spanId : SpanId) (now : Instant)
  | setData (n : Node) (key : String) (value : Json)
  | setTag (n : Node) (key value : String)
  | setStatus (n : Node) (status : SpanStatus)
  | setName (i : Nat) (name : String)
  | setRequest (i : Nat) (r : Request)
  | finishSpan (k : Nat) (now : Instant)
  | finishTransaction (i : Nat) (blank : Event)

/-- A span as it was when it was first finished. -/
structure Finished where
  number : Nat
  span : Span

/-- An event handed to a client. -/
structure Handed where
  /-- The transaction of the event. -/
  transaction : Nat
  client : ClientId
  event : Event

/-- Traces and what was done to them. -/
structure Recording where
  traces : Traces
  /-- The node on which each span was started. -/
  parents : List Node
  /-- The spans in the order of first being finished. -/
  finished : List Finished
  handed : List Handed

namespace Recording

/-- Nothing was done so far. -/
def empty : Recording := ⟨.empty, [], [], []⟩

/-- A change that is not recorded. -/
def edit (f : Traces → Traces) (r : Recording) : Recording := { r with traces := f r.traces }

/-- Whether a span was finished before. -/
def wasFinished (r : Recording) (k : Nat) : Bool := (r.finished.map Finished.number).contains k

/-- Starts a span below a node, if there is such a node. -/
def startChild (n : Node) (op description : String) (spanId : SpanId) (now : Instant)
    (r : Recording) : Recording :=
  match r.traces.startChild n op description spanId now with
  | some (_, traces) => { r with traces, parents := r.parents ++ [n] }
  | none => r

/-- Finishes a span, which counts the first time. -/
def finishSpan (k : Nat) (now : Instant) (r : Recording) : Recording :=
  { r with
    traces := r.traces.finishSpan k now
    finished := match r.traces.spans[k]? with
      | some s =>
        if r.wasFinished k then r.finished
        else r.finished ++ [⟨k, { s.span with timestamp := some now }⟩]
      | none => r.finished }

/-- Finishes a transaction. -/
def finishTransaction (i : Nat) (blank : Event) (r : Recording) : Recording :=
  let (sent, traces) := r.traces.finishTransaction i blank
  { r with
    traces
    handed := r.handed ++ sent.toList.map fun (client, event) => ⟨i, client, event⟩ }

/-- What an operation makes of a recording. -/
def perform (r : Recording) : Operation → Recording
  | .start client sampled c spanId now =>
    r.edit fun s => (s.addTransaction (.start client sampled c spanId now)).2
  | .startChild n op description spanId now => r.startChild n op description spanId now
  | .setData n key value => r.edit (Traces.setData n key value)
  | .setTag n key value => r.edit (Traces.setTag n key value)
  | .setStatus n status => r.edit (Traces.setStatus n status)
  | .setName i name => r.edit (Traces.setName i name)
  | .setRequest i request => r.edit (Traces.setRequest i request)
  | .finishSpan k now => r.finishSpan k now
  | .finishTransaction i blank => r.finishTransaction i blank

/-- A recording after more operations. -/
def performAll (r : Recording) (ops : List Operation) : Recording := ops.foldl perform r

theorem performAll_append (r : Recording) (xs ys : List Operation) :
    r.performAll (xs ++ ys) = (r.performAll xs).performAll ys := List.foldl_append

end Recording

/-! ### Outlines -/

/-- What the setters leave alone in a transaction. -/
structure TransactionOutline where
  client : Option ClientId
  header : TraceHeader
  /-- The spans recorded so far, while the transaction is not finished. -/
  recorded : Option (List Span)

/-- What the setters leave alone in a span. -/
structure SpanOutline where
  transaction : Nat
  header : TraceHeader
  parentSpanId : Option SpanId
  ended : Bool

/-- The outline of a transaction. -/
def Transaction.outline (t : Transaction) : TransactionOutline :=
  { client := t.client, header := ⟨t.context.traceId, t.context.spanId, some t.sampled⟩
    recorded := t.data.map TransactionData.spans }

/-- The outline of a span. -/
def RunningSpan.outline (s : RunningSpan) : SpanOutline :=
  { transaction := s.transaction, header := ⟨s.span.traceId, s.span.spanId, some s.sampled⟩
    parentSpanId := s.span.parentSpanId, ended := s.span.timestamp.isSome }

/-- What the setters leave alone in traces. -/
structure Outline where
  transactions : List TransactionOutline
  spans : List SpanOutline

/-- Records a finished span, unless there are too many. -/
def TransactionOutline.record (s : Span) (t : TransactionOutline) : TransactionOutline :=
  { t with
    recorded := t.recorded.map fun spans =>
      if spans.length < maxSpans then spans ++ [s] else spans }

/-- Forgets what was recorded, and the client with it. -/
def TransactionOutline.close (t : TransactionOutline) : TransactionOutline :=
  { t with client := none, recorded := none }

/-- The first finish of a span. -/
def SpanOutline.finish (s : SpanOutline) : SpanOutline := { s with ended := true }

namespace Outline

/-- The header of a node. -/
def header? (o : Outline) : Node → Option TraceHeader
  | .transaction i => o.transactions[i]?.map TransactionOutline.header
  | .span k => o.spans[k]?.map SpanOutline.header

/-- The transaction of a node. -/
def root? (o : Outline) : Node → Option Nat
  | .transaction i => some i
  | .span k => o.spans[k]?.map SpanOutline.transaction

end Outline

namespace Traces

/-- The outline of traces. -/
def outline (s : Traces) : Outline :=
  ⟨s.transactions.map Transaction.outline, s.spans.map RunningSpan.outline⟩

@[simp] theorem outline_transactions (s : Traces) :
    s.outline.transactions = s.transactions.map Transaction.outline := rfl

@[simp] theorem outline_spans (s : Traces) :
    s.outline.spans = s.spans.map RunningSpan.outline := rfl

theorem header?_eq_outline (s : Traces) (n : Node) : s.header? n = s.outline.header? n := by
  cases n <;> simp only [header?, Outline.header?, outline, List.getElem?_map, Option.map_map] <;>
    rfl

theorem root?_eq_outline (s : Traces) (n : Node) : s.root? n = s.outline.root? n := by
  cases n with
  | transaction i => rfl
  | span k =>
    simp only [root?, Outline.root?, outline, List.getElem?_map, Option.map_map]
    rfl

theorem root?_of_outline {s : Traces} {k : Nat} {o : SpanOutline}
    (h : s.outline.spans[k]? = some o) : s.root? (.span k) = some o.transaction := by
  rw [root?_eq_outline, Outline.root?, h]
  rfl

/-- A change of one element, seen through a view of the elements. -/
theorem map_modify {α β : Type} {v : α → β} {f : α → α} {g : β → β} {i : Nat} {xs : List α}
    (h : ∀ a, xs[i]? = some a → v (f a) = g (v a)) :
    (xs.modify i f).map v = (xs.map v).modify i g := by
  apply List.ext_getElem?
  intro j
  simp only [List.getElem?_map, List.getElem?_modify]
  by_cases hij : i = j
  · subst hij
    cases hx : xs[i]? with
    | none => rfl
    | some a => simp [h a hx]
  · cases xs[j]? <;> simp [hij]

theorem outline_updateTransaction (s : Traces) (i : Nat) (f : Transaction → Transaction)
    (h : ∀ t, (f t).outline = t.outline) : (s.updateTransaction i f).outline = s.outline := by
  simp only [outline, updateTransaction, map_modify (g := id) fun t _ => h t, List.modify_id]

theorem outline_updateSpan (s : Traces) (i : Nat) (f : Span → Span)
    (h : ∀ r : RunningSpan, RunningSpan.outline { r with span := f r.span } = r.outline) :
    (s.updateSpan i f).outline = s.outline := by
  simp only [outline, updateSpan, map_modify (g := id) fun r _ => h r, List.modify_id]

/-- Changing what a transaction collects besides spans leaves its outline alone. -/
theorem outline_collect (t : Transaction) (f : TransactionData → TransactionData)
    (h : ∀ d, (f d).spans = d.spans) : (t.collect f).outline = t.outline := by
  simp only [Transaction.outline, Transaction.collect, Option.map_map, Function.comp_def, h]

theorem outline_setData (s : Traces) (n : Node) (key : String) (value : Json) :
    (s.setData n key value).outline = s.outline := by
  cases n with
  | transaction i => exact outline_updateTransaction s i _ fun t => outline_collect t _ fun _ => rfl
  | span k => exact outline_updateSpan s k _ fun _ => rfl

theorem outline_setTag (s : Traces) (n : Node) (key value : String) :
    (s.setTag n key value).outline = s.outline := by
  cases n with
  | transaction i => exact outline_updateTransaction s i _ fun t => outline_collect t _ fun _ => rfl
  | span k => exact outline_updateSpan s k _ fun _ => rfl

theorem outline_setStatus (s : Traces) (n : Node) (status : SpanStatus) :
    (s.setStatus n status).outline = s.outline := by
  cases n with
  | transaction i => exact outline_updateTransaction s i _ fun _ => rfl
  | span k => exact outline_updateSpan s k _ fun _ => rfl

theorem outline_setName (s : Traces) (i : Nat) (name : String) :
    (s.setName i name).outline = s.outline :=
  outline_updateTransaction s i _ fun _ => rfl

theorem outline_setRequest (s : Traces) (i : Nat) (r : Request) :
    (s.setRequest i r).outline = s.outline :=
  outline_updateTransaction s i _ fun t => outline_collect t _ fun _ => rfl

/-! ### Starting and finishing -/

theorem outline_addTransaction (s : Traces) (t : Transaction) :
    (s.addTransaction t).2.outline =
      ⟨s.outline.transactions ++ [t.outline], s.outline.spans⟩ := by
  simp [addTransaction, outline]

/-- A span is started below a node that exists, in its trace and with its identifier as parent. -/
theorem outline_startChild {s s' : Traces} {n m : Node} {op description : String} {id : SpanId}
    {now : Instant} (h : s.startChild n op description id now = some (m, s')) :
    ∃ header root, s.outline.header? n = some header ∧ s.outline.root? n = some root ∧
      s'.outline = ⟨s.outline.transactions, s.outline.spans ++
        [⟨root, ⟨header.traceId, id, some (header.sampled == some true)⟩, some header.spanId,
          false⟩]⟩ := by
  rw [startChild, header?_eq_outline, root?_eq_outline] at h
  cases hh : s.outline.header? n with
  | none => simp [hh] at h
  | some header =>
    cases hr : s.outline.root? n with
    | none => simp [hh, hr] at h
    | some root =>
      simp only [hh, hr, Option.bind_eq_bind, Option.bind_some, Option.pure_def,
        Option.some.injEq, Prod.mk.injEq] at h
      obtain ⟨-, rfl⟩ := h
      exact ⟨header, root, rfl, rfl, by simp [outline, RunningSpan.outline]⟩

theorem outline_record (t : Transaction) (span : Span) :
    (t.record span).outline = t.outline.record span := by
  simp only [Transaction.outline, Transaction.record, Transaction.collect,
    TransactionOutline.record, Option.map_map]
  congr 2
  funext d
  simp only [Function.comp_apply]
  split <;> rfl

theorem outline_finishSpan_ended {s : Traces} {k : Nat} {r : RunningSpan}
    (hr : s.spans[k]? = some r) (he : r.span.timestamp.isSome = true) (now : Instant) :
    s.finishSpan k now = s := by
  simp [finishSpan, hr, he]

/-- The first finish of a span ends it and records it on its transaction. -/
theorem outline_finishSpan {s : Traces} {k : Nat} {r : RunningSpan} (hr : s.spans[k]? = some r)
    (he : r.span.timestamp.isSome = false) (now : Instant) :
    (s.finishSpan k now).outline =
      ⟨s.outline.transactions.modify r.transaction
          (TransactionOutline.record { r.span with timestamp := some now }),
        s.outline.spans.modify k SpanOutline.finish⟩ := by
  simp only [finishSpan, hr, he, Bool.false_eq_true, if_false, outline, updateTransaction,
    updateSpan]
  congr 1
  · exact map_modify fun t _ => outline_record t _
  · refine map_modify fun r' hr' => ?_
    obtain rfl : r = r' := Option.some.inj (hr.symm.trans hr')
    rfl

theorem finishTransaction_fst (s : Traces) (i : Nat) (blank : Event) :
    (s.finishTransaction i blank).1 = (s.transactions[i]?.bind fun t =>
      t.data.bind fun d => t.client.map fun client => (client, t.event blank d)) := by
  unfold finishTransaction
  cases s.transactions[i]? with
  | none => rfl
  | some t => cases hd : t.data <;> cases hc : t.client <;> simp [hd, hc]

/-- Finishing a transaction closes it. -/
theorem outline_finishTransaction (s : Traces) (i : Nat) (blank : Event) :
    (s.finishTransaction i blank).2.outline =
      ⟨s.outline.transactions.modify i TransactionOutline.close, s.outline.spans⟩ := by
  have closed : (s.updateTransaction i fun t => { t with data := none, client := none }).outline =
      ⟨s.outline.transactions.modify i TransactionOutline.close, s.outline.spans⟩ := by
    simp only [outline, updateTransaction]
    congr 1
    exact map_modify fun _ _ => rfl
  unfold finishTransaction
  cases ht : s.transactions[i]? with
  | none =>
    have he : s.outline.transactions[i]? = none := by simp [ht]
    rw [List.modify_eq_self (by simpa using he)]
  | some t =>
    rw [← closed]
    cases hd : t.data <;> cases hc : t.client <;> simp [hd, hc]

end Traces

end Telemetry
