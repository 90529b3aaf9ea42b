import Telemetry.Client.Channels
import Telemetry.Proofs.Transport.Ledger

/-! Flushing a client. The workers of logs and metrics hand their batches to the transport, which may
have a worker of its own; a client waits for the first two before it waits for the third. So when all
three have answered, whatever was accepted has got through, or it is known why not. -/

namespace Telemetry

/-! ### Batches in envelopes -/

def Item.logs? : Item → Option (List Log)
  | .logs ls => some ls
  | _ => none

def Item.metrics? : Item → Option (List Metric)
  | .metrics ms => some ms
  | _ => none

/-- The batches of one kind in envelopes, the first one first. -/
def batchesIn {α : Type} (kind : Item → Option (List α)) (es : List Envelope) : List (List α) :=
  es.flatMap fun e => e.items.filterMap kind

@[simp] theorem batchesIn_append {α : Type} (kind : Item → Option (List α))
    (xs ys : List Envelope) : batchesIn kind (xs ++ ys) = batchesIn kind xs ++ batchesIn kind ys :=
  List.flatMap_append

@[simp] theorem batchesIn_ofItem {α : Type} (kind : Item → Option (List α)) (is : List Item) :
    batchesIn kind (is.map Envelope.ofItem) = is.filterMap kind := by
  induction is with
  | nil => rfl
  | cons i is ih =>
    have first : (Envelope.ofItem i).items = [i] := rfl
    rw [batchesIn] at ih ⊢
    rw [List.map_cons, List.flatMap_cons, first, ih]
    cases h : kind i <;> simp [h]

@[simp] theorem logs?_logs (bs : List (List Log)) :
    (bs.map Item.logs).filterMap Item.logs? = bs := by
  simp [List.filterMap_map, Function.comp_def, Item.logs?]

@[simp] theorem metrics?_logs (bs : List (List Log)) :
    (bs.map Item.logs).filterMap Item.metrics? = [] := by
  simp [Item.metrics?]

@[simp] theorem metrics?_metrics (bs : List (List Metric)) :
    (bs.map Item.metrics).filterMap Item.metrics? = bs := by
  simp [List.filterMap_map, Function.comp_def, Item.metrics?]

@[simp] theorem logs?_metrics (bs : List (List Metric)) :
    (bs.map Item.metrics).filterMap Item.logs? = [] := by
  simp [Item.logs?]

@[simp] theorem logs?_ofEvent (e : Event) : (Item.ofEvent e).logs? = none := by
  unfold Item.ofEvent
  split <;> rfl

@[simp] theorem metrics?_ofEvent (e : Event) : (Item.ofEvent e).metrics? = none := by
  unfold Item.ofEvent
  split <;> rfl

/-! ### Handing on -/

namespace Transport.Audit

variable {now : Instant}

/-- Hands over items, each in an envelope of its own. -/
def handOver (now : Instant) : Emitter.Pace → List Item → Audit → Audit
  | _, [], a => a
  | pace, i :: is, a => handOver now (pace.sub 1) is (a.send now (pace.sub 0) (.ofItem i))

theorem Holds.handOver {a : Audit} (h : a.Holds) (pace : Emitter.Pace) (is : List Item) :
    (a.handOver now pace is).Holds := by
  induction is generalizing a pace with
  | nil => exact h
  | cons i is ih => exact ih (h.send now (pace.sub 0) (.ofItem i)) (pace.sub 1)

theorem offered_handOver (pace : Emitter.Pace) (is : List Item) (a : Audit) :
    (a.handOver now pace is).transport.offered =
      a.transport.offered ++ is.map Envelope.ofItem := by
  induction is generalizing a pace with
  | nil => exact (List.append_nil _).symm
  | cons i is ih =>
    have sent : (a.send now (pace.sub 0) (.ofItem i)).transport.offered = _ :=
      offered_send now (pace.sub 0) (.ofItem i) a.transport
    rw [handOver, ih, sent, List.append_assoc]
    rfl

end Transport.Audit

namespace Client

open Transport (Audit)

variable {now : Instant}

/-- A client that is attached to the transport of an audit. -/
structure Attached (c : Client) (x : Audit) : Prop where
  attached : c.attached = true
  transport : c.transport = some x.transport

theorem Attached.current {c : Client} {x : Audit} (h : c.Attached x) :
    c.current? = some x.transport := by
  rw [current?, if_pos h.attached, h.transport]

theorem send_client {c : Client} {x : Audit} (h : c.Attached x) (pace : Emitter.Pace)
    (e : Envelope) :
    (c.send now pace e).client = { c with transport := some (x.send now pace e).transport } := by
  rw [send, h.current]
  rfl

theorem handOn_client {c : Client} {x : Audit} (h : c.Attached x) (pace : Emitter.Pace)
    (is : List Item) :
    c.handOn now pace is = { c with transport := some (x.handOver now pace is).transport } := by
  induction is generalizing c x pace with
  | nil =>
    rw [handOn, Audit.handOver, ← h.transport]
  | cons i is ih =>
    have next : (c.send now (pace.sub 0) (.ofItem i)).client.Attached
        (x.send now (pace.sub 0) (.ofItem i)) := by
      rw [send_client h]
      exact ⟨h.attached, rfl⟩
    rw [handOn, ih next, send_client h]
    rfl

/-- Handing envelopes over concerns the transport alone. -/
theorem exists_handOn (pace : Emitter.Pace) (is : List Item) (c : Client) :
    ∃ transport, c.handOn now pace is = { c with transport } := by
  induction is generalizing c pace with
  | nil => exact ⟨c.transport, rfl⟩
  | cons i is ih =>
    have sent : ∃ transport,
        (c.send now (pace.sub 0) (.ofItem i)).client = { c with transport } := by
      unfold send
      split
      · exact ⟨c.transport, rfl⟩
      · exact ⟨_, rfl⟩
    obtain ⟨first, sent⟩ := sent
    obtain ⟨rest, handed⟩ := ih (pace.sub 1) { c with transport := first }
    exact ⟨rest, by rw [handOn, sent, handed]⟩

/-! ### The workers of a client -/

/-- What comes of an operation on an emitter. -/
structure Share (α : Type) where
  accepted : List α
  batches : List (List α)
  emitter : Emitter α

/-- What an operation of the client does with an emitter. -/
abbrev Part (α : Type) := Emitter α → Share α

namespace Part

variable {α : Type}

def rest : Part α := fun e => ⟨[], [], e⟩

def turn (t : Emitter.Turn) : Part α := fun e => ⟨[], (e.turn t).1, (e.turn t).2⟩

def enqueue (pace : Emitter.Pace) (a : α) : Part α := fun e =>
  let r := e.enqueue pace a
  ⟨if r.result.isAccepted then [a] else [], r.batches, r.emitter⟩

def flush (pace : Emitter.Pace) : Part α := fun e =>
  let r := e.flush pace
  ⟨[], r.batches, r.emitter⟩

def accepted (part : Part α) (e : Option (Emitter α)) : List α :=
  (e.map fun e => (part e).accepted).getD []

def batches (part : Part α) (e : Option (Emitter α)) : List (List α) :=
  (e.map fun e => (part e).batches).getD []

/-- A part after which an emitter is still at work. -/
def GoesOn (part : Part α) : Prop :=
  ∀ ⦃e accepted batches⦄, Emitter.Live e accepted batches →
    (part e).emitter.Live (accepted ++ (part e).accepted) (batches ++ (part e).batches)

theorem goesOn_rest : (rest : Part α).GoesOn := fun _ _ _ live => by
  simpa [rest] using live

theorem goesOn_turn (t : Emitter.Turn) : (turn t : Part α).GoesOn := fun _ _ _ live => by
  simpa [turn] using live.turn t

theorem goesOn_enqueue (pace : Emitter.Pace) (a : α) : (enqueue pace a).GoesOn := fun _ _ _ live =>
  live.enqueue pace a

theorem goesOn_flush (pace : Emitter.Pace) : (flush pace : Part α).GoesOn := fun _ _ _ live => by
  simpa [flush] using (live.flush pace).1

end Part

/-- The worker of logs does its part, and hands its batches to the transport. -/
def passLogs (now : Instant) (pace : Emitter.Pace) (part : Part Log) (c : Client) : Client :=
  { c with logs := c.logs.map fun e => (part e).emitter }.handOn now pace
    ((part.batches c.logs).map .logs)

def passMetrics (now : Instant) (pace : Emitter.Pace) (part : Part Metric) (c : Client) : Client :=
  { c with metrics := c.metrics.map fun e => (part e).emitter }.handOn now pace
    ((part.batches c.metrics).map .metrics)

theorem passLogs_none {c : Client} (none : c.logs = none) (pace : Emitter.Pace) (part : Part Log) :
    c.passLogs now pace part = c := by
  obtain ⟨_, _, _, _, _, _, logs, _⟩ := c
  obtain rfl : logs = Option.none := none
  rfl

theorem passLogs_some {c : Client} {e : Emitter Log} (some : c.logs = some e)
    (pace : Emitter.Pace) (part : Part Log) :
    c.passLogs now pace part =
      { c with logs := Option.some (part e).emitter }.handOn now pace
        ((part e).batches.map .logs) := by
  rw [passLogs, some]
  rfl

theorem passMetrics_none {c : Client} (none : c.metrics = none) (pace : Emitter.Pace)
    (part : Part Metric) : c.passMetrics now pace part = c := by
  obtain ⟨_, _, _, _, _, _, _, metrics⟩ := c
  obtain rfl : metrics = Option.none := none
  rfl

theorem passMetrics_some {c : Client} {e : Emitter Metric} (some : c.metrics = some e)
    (pace : Emitter.Pace) (part : Part Metric) :
    c.passMetrics now pace part =
      { c with metrics := Option.some (part e).emitter }.handOn now pace
        ((part e).batches.map .metrics) := by
  rw [passMetrics, some]
  rfl

@[simp] theorem passLogs_rest (pace : Emitter.Pace) (c : Client) :
    c.passLogs now pace .rest = c := by
  cases h : c.logs with
  | none => exact passLogs_none h pace _
  | some e => rw [passLogs_some h, Part.rest, ← h]; rfl

@[simp] theorem passMetrics_rest (pace : Emitter.Pace) (c : Client) :
    c.passMetrics now pace .rest = c := by
  cases h : c.metrics with
  | none => exact passMetrics_none h pace _
  | some e => rw [passMetrics_some h, Part.rest, ← h]; rfl

theorem passLogs_client {c : Client} {x : Audit} (h : c.Attached x) (pace : Emitter.Pace)
    (part : Part Log) :
    c.passLogs now pace part =
      { c with
        logs := c.logs.map fun e => (part e).emitter
        transport :=
          some (x.handOver now pace ((part.batches c.logs).map .logs)).transport } := by
  have attached : Attached { c with logs := c.logs.map fun e => (part e).emitter } x :=
    ⟨h.attached, h.transport⟩
  rw [passLogs, handOn_client attached]

theorem passMetrics_client {c : Client} {x : Audit} (h : c.Attached x) (pace : Emitter.Pace)
    (part : Part Metric) :
    c.passMetrics now pace part =
      { c with
        metrics := c.metrics.map fun e => (part e).emitter
        transport :=
          some (x.handOver now pace ((part.batches c.metrics).map .metrics)).transport } := by
  have attached : Attached { c with metrics := c.metrics.map fun e => (part e).emitter } x :=
    ⟨h.attached, h.transport⟩
  rw [passMetrics, handOn_client attached]

theorem Attached.passLogs {c : Client} {x : Audit} (h : c.Attached x) (now : Instant)
    (pace : Emitter.Pace) (part : Part Log) :
    (c.passLogs now pace part).Attached
      (x.handOver now pace ((part.batches c.logs).map .logs)) := by
  rw [passLogs_client h]
  exact ⟨h.attached, rfl⟩

theorem Attached.passMetrics {c : Client} {x : Audit} (h : c.Attached x) (now : Instant)
    (pace : Emitter.Pace) (part : Part Metric) :
    (c.passMetrics now pace part).Attached
      (x.handOver now pace ((part.batches c.metrics).map .metrics)) := by
  rw [passMetrics_client h]
  exact ⟨h.attached, rfl⟩

theorem exists_passLogs (now : Instant) (pace : Emitter.Pace) (part : Part Log) (c : Client) :
    ∃ transport, c.passLogs now pace part =
      { c with logs := c.logs.map fun e => (part e).emitter, transport } :=
  exists_handOn _ _ _

theorem exists_passMetrics (now : Instant) (pace : Emitter.Pace) (part : Part Metric)
    (c : Client) :
    ∃ transport, c.passMetrics now pace part =
      { c with metrics := c.metrics.map fun e => (part e).emitter, transport } :=
  exists_handOn _ _ _

theorem metrics_passLogs (pace : Emitter.Pace) (part : Part Log) (c : Client) :
    (c.passLogs now pace part).metrics = c.metrics := by
  obtain ⟨transport, passed⟩ := exists_passLogs now pace part c
  rw [passed]

theorem logs_offered (now : Instant) (pace pace' : Emitter.Pace) (x : Audit)
    (ls : List (List Log)) (ms : List (List Metric)) :
    let y := (x.handOver now pace (ls.map .logs)).handOver now pace' (ms.map .metrics)
    batchesIn Item.logs? y.transport.offered = batchesIn Item.logs? x.transport.offered ++ ls ∧
      batchesIn Item.metrics? y.transport.offered =
        batchesIn Item.metrics? x.transport.offered ++ ms := by
  intro y
  have offered : y.transport.offered = x.transport.offered ++ _ ++ _ :=
    (Audit.offered_handOver _ _ _).trans (congrArg (· ++ _) (Audit.offered_handOver _ _ _))
  rw [offered]
  simp only [batchesIn_append, batchesIn_ofItem, logs?_logs, logs?_metrics, metrics?_logs,
    metrics?_metrics, List.append_nil, and_self]

/-! ### Operations -/

/-- Everything that is done with a client short of closing it. -/
inductive Operation where
  /-- The workers go on. -/
  | work (now : Instant) (pace : Emitter.Pace)
  /-- An event that has come to the end of its way, of any kind. -/
  | event (now : Instant) (pace : Emitter.Pace) (e : Event)
  | log (now : Instant) (pace : Emitter.Pace) (traces : Traces) (scope : Scope) (l : Log)
  | metric (now : Instant) (pace : Emitter.Pace) (traces : Traces) (scope : Scope) (m : Metric)
  | flush (now : Instant) (pace : Emitter.Pace)

namespace Operation

def run (c : Client) : Operation → Client
  | .work now pace => c.turn now pace
  | .event now pace e => (c.send now pace (.ofItem (.ofEvent e))).client
  | .log now pace traces scope l => (c.captureLog now pace traces scope l).client
  | .metric now pace traces scope m => (c.captureMetric now pace traces scope m).client
  | .flush now pace => (c.flush now pace).client

def time : Operation → Instant
  | .work now _ => now
  | .event now _ _ => now
  | .log now _ _ _ _ => now
  | .metric now _ _ _ _ => now
  | .flush now _ => now

/-- The part of the emitter of logs, whose batches are handed over at the pace of the next one. -/
def logs (c : Client) : Operation → Part Log
  | .work _ pace => .turn (pace.sub 0).turn
  | .log now pace traces scope l =>
    match c.prepareLog traces scope l with
    | some l => if c.isLimited now .logItem then .rest else .enqueue (pace.sub 0) l
    | none => .rest
  | .flush _ pace => .flush ((pace.sub 0).sub 0)
  | _ => .rest

def logPace : Operation → Emitter.Pace
  | .work _ pace => pace.sub 1
  | .event _ pace _ => pace
  | .log _ pace _ _ _ => pace.sub 1
  | .metric _ pace _ _ _ => pace
  | .flush _ pace => (pace.sub 0).sub 1

def metrics (c : Client) : Operation → Part Metric
  | .work _ pace => .turn (pace.sub 2).turn
  | .metric now pace traces scope m =>
    match c.prepareMetric traces scope m with
    | some m => if c.isLimited now .traceMetric then .rest else .enqueue (pace.sub 0) m
    | none => .rest
  | .flush _ pace => .flush ((pace.sub 1).sub 0)
  | _ => .rest

def metricPace : Operation → Emitter.Pace
  | .work _ pace => pace.sub 3
  | .event _ pace _ => pace
  | .log _ pace _ _ _ => pace
  | .metric _ pace _ _ _ => pace.sub 1
  | .flush _ pace => (pace.sub 1).sub 1

/-- What is done with the transport after that. -/
def last (c : Client) : Operation → Client
  | .work now pace =>
    { c with transport := c.transport.map (Transport.turn now (pace.sub 4).turn) }
  | .event now pace e => (c.send now pace (.ofItem (.ofEvent e))).client
  | .flush now pace => (c.flushTransport now (pace.sub 2)).2
  | _ => c

theorem run_log (now : Instant) (pace : Emitter.Pace) (traces : Traces) (scope : Scope) (l : Log)
    (c : Client) :
    (c.captureLog now pace traces scope l).client =
      c.passLogs now (pace.sub 1) ((Operation.log now pace traces scope l).logs c) := by
  unfold captureLog logs
  cases h : c.logs with
  | none => rw [passLogs_none h]
  | some e =>
    cases prepared : c.prepareLog traces scope l with
    | none => simp [prepared]
    | some l =>
      cases limited : c.isLimited now .logItem with
      | true => simp [prepared, limited]
      | false => simp [prepared, limited, passLogs_some h, Part.enqueue]

theorem run_metric (now : Instant) (pace : Emitter.Pace) (traces : Traces) (scope : Scope)
    (m : Metric) (c : Client) :
    (c.captureMetric now pace traces scope m).client =
      c.passMetrics now (pace.sub 1) ((Operation.metric now pace traces scope m).metrics c) := by
  unfold captureMetric metrics
  cases h : c.metrics with
  | none => rw [passMetrics_none h]
  | some e =>
    cases prepared : c.prepareMetric traces scope m with
    | none => simp [prepared]
    | some m =>
      cases limited : c.isLimited now .traceMetric with
      | true => simp [prepared, limited]
      | false => simp [prepared, limited, passMetrics_some h, Part.enqueue]

theorem run_flushLogs (now : Instant) (pace : Emitter.Pace) (c : Client) :
    (c.flushLogs now pace).2 = c.passLogs now (pace.sub 1) (.flush (pace.sub 0)) := by
  unfold flushLogs
  split
  · next none => rw [passLogs_none none]
  · next some => rw [passLogs_some some]; rfl

theorem run_flushMetrics (now : Instant) (pace : Emitter.Pace) (c : Client) :
    (c.flushMetrics now pace).2 = c.passMetrics now (pace.sub 1) (.flush (pace.sub 0)) := by
  unfold flushMetrics
  split
  · next none => rw [passMetrics_none none]
  · next some => rw [passMetrics_some some]; rfl

theorem run_eq (o : Operation) (c : Client) :
    o.run c =
      o.last ((c.passLogs o.time o.logPace (o.logs c)).passMetrics o.time o.metricPace
        (o.metrics c)) := by
  cases o with
  | work now pace =>
    simp only [run, Client.turn, passLogs, passMetrics, Part.batches, Option.map_map,
      Function.comp_def]
    rfl
  | event now pace e => simp [run, last, logs, metrics]
  | log now pace traces scope l => simp [run, last, run_log, metrics, time, logPace]
  | metric now pace traces scope m =>
    simp [run, last, run_metric, logs, time, metricPace]
  | flush now pace =>
    show ((((c.flushLogs now (pace.sub 0)).2).flushMetrics now (pace.sub 1)).2.flushTransport now
      (pace.sub 2)).2 = _
    rw [run_flushLogs, run_flushMetrics]
    rfl

end Operation

/-! ### Accounts -/

/-- An emitter of the client, if there is one, with what it accepted and handed on. -/
inductive Channel {α : Type} : Option (Emitter α) → List α → List (List α) → Prop
  | absent : Channel none [] []
  | present {e : Emitter α} {accepted : List α} {batches : List (List α)} :
      e.Live accepted batches → Channel (some e) accepted batches

theorem Channel.pass {α : Type} {e : Option (Emitter α)} {accepted : List α}
    {batches : List (List α)} (h : Channel e accepted batches) {part : Part α}
    (goesOn : part.GoesOn) :
    Channel (e.map fun e => (part e).emitter) (accepted ++ part.accepted e)
      (batches ++ part.batches e) := by
  cases h with
  | absent => exact .absent
  | present live => exact .present (goesOn live)

/-- What holds of a client that is attached to an audited transport. -/
structure Holds (c : Client) (logs : List Log) (metrics : List Metric) (x : Audit) : Prop where
  attached : c.Attached x
  audit : x.Holds
  logs : Channel c.logs logs (batchesIn Item.logs? x.transport.offered)
  metrics : Channel c.metrics metrics (batchesIn Item.metrics? x.transport.offered)

section

variable {c : Client} {ls : List Log} {ms : List Metric} {x : Audit}

theorem Holds.passLogs (h : c.Holds ls ms x) (now : Instant) (pace : Emitter.Pace)
    {part : Part Log} (goesOn : part.GoesOn) :
    (c.passLogs now pace part).Holds (ls ++ part.accepted c.logs) ms
      (x.handOver now pace ((part.batches c.logs).map .logs)) := by
  have logs := h.logs.pass goesOn
  rw [passLogs_client h.attached]
  refine ⟨⟨h.attached.attached, rfl⟩, h.audit.handOver _ _, ?_, ?_⟩
  · rwa [Audit.offered_handOver, batchesIn_append, batchesIn_ofItem, logs?_logs]
  · rw [Audit.offered_handOver, batchesIn_append, batchesIn_ofItem, metrics?_logs, List.append_nil]
    exact h.metrics

theorem Holds.passMetrics (h : c.Holds ls ms x) (now : Instant) (pace : Emitter.Pace)
    {part : Part Metric} (goesOn : part.GoesOn) :
    (c.passMetrics now pace part).Holds ls (ms ++ part.accepted c.metrics)
      (x.handOver now pace ((part.batches c.metrics).map .metrics)) := by
  have metrics := h.metrics.pass goesOn
  rw [passMetrics_client h.attached]
  refine ⟨⟨h.attached.attached, rfl⟩, h.audit.handOver _ _, ?_, ?_⟩
  · rw [Audit.offered_handOver, batchesIn_append, batchesIn_ofItem, logs?_metrics, List.append_nil]
    exact h.logs
  · rwa [Audit.offered_handOver, batchesIn_append, batchesIn_ofItem, metrics?_metrics]

theorem Holds.event (h : c.Holds ls ms x) (pace : Emitter.Pace) (e : Event) :
    (c.send now pace (.ofItem (.ofEvent e))).client.Holds ls ms
      (x.send now pace (.ofItem (.ofEvent e))) := by
  rw [send_client h.attached]
  have offered : (x.send now pace (.ofItem (.ofEvent e))).transport.offered =
      x.transport.offered ++ [Item.ofEvent e].map Envelope.ofItem :=
    Transport.offered_send now pace _ x.transport
  refine ⟨⟨h.attached.attached, rfl⟩, h.audit.send now pace _, ?_, ?_⟩
  · rw [offered, batchesIn_append, batchesIn_ofItem, List.filterMap_cons_none (logs?_ofEvent e),
      List.filterMap_nil, List.append_nil]
    exact h.logs
  · rw [offered, batchesIn_append, batchesIn_ofItem, List.filterMap_cons_none (metrics?_ofEvent e),
      List.filterMap_nil, List.append_nil]
    exact h.metrics

/-- What changes nothing but the transport, and hands nothing over, leaves the channels alone. -/
theorem Holds.onTransport (h : c.Holds ls ms x) {x' : Audit} (audit : x'.Holds)
    (offered : x'.transport.offered = x.transport.offered) :
    Holds { c with transport := some x'.transport } ls ms x' :=
  ⟨⟨h.attached.attached, rfl⟩, audit, by rw [offered]; exact h.logs,
    by rw [offered]; exact h.metrics⟩

theorem Holds.turn (h : c.Holds ls ms x) (t : Emitter.Turn) :
    Holds { c with transport := c.transport.map (Transport.turn now t) } ls ms
      (x.turn now t) := by
  rw [h.attached.transport]
  exact h.onTransport (h.audit.turn now t) (Transport.offered_turn now t x.transport)

theorem flushTransport_eq (attached : c.Attached x) (pace : Emitter.Pace) :
    c.flushTransport now pace =
      ((x.transport.flush now pace).1,
        { c with transport := some (x.flush now pace).transport }) := by
  rw [flushTransport, attached.current]
  rfl

theorem Holds.flush (h : c.Holds ls ms x) (pace : Emitter.Pace) :
    (c.flushTransport now pace).2.Holds ls ms (x.flush now pace) := by
  rw [flushTransport_eq h.attached]
  exact h.onTransport (h.audit.flush now pace) (Transport.offered_flush now pace x.transport)

end

/-! ### Runs -/

namespace Operation

/-- What an operation does with the transport of a client. -/
def audit (c : Client) (o : Operation) (x : Audit) : Audit :=
  let x := x.handOver o.time o.logPace (((o.logs c).batches c.logs).map .logs)
  let x := x.handOver o.time o.metricPace (((o.metrics c).batches c.metrics).map .metrics)
  match o with
  | .work now pace => x.turn now (pace.sub 4).turn
  | .event now pace e => x.send now pace (.ofItem (.ofEvent e))
  | .flush now pace => x.flush now (pace.sub 2)
  | _ => x

/-- What holds of every part that an emitter may have holds of the one of the logs. -/
theorem logs_part {P : Part Log → Prop} (rest : P .rest) (turn : ∀ t, P (.turn t))
    (enqueue : ∀ pace l, P (.enqueue pace l)) (flush : ∀ pace, P (.flush pace)) (c : Client)
    (o : Operation) : P (o.logs c) := by
  cases o with
  | work now pace => exact turn _
  | event | metric => exact rest
  | log now pace traces scope l =>
    unfold logs
    dsimp only
    split
    · split
      · exact rest
      · exact enqueue _ _
    · exact rest
  | flush now pace => exact flush _

theorem metrics_part {P : Part Metric → Prop} (rest : P .rest) (turn : ∀ t, P (.turn t))
    (enqueue : ∀ pace m, P (.enqueue pace m)) (flush : ∀ pace, P (.flush pace)) (c : Client)
    (o : Operation) : P (o.metrics c) := by
  cases o with
  | work now pace => exact turn _
  | event | log => exact rest
  | metric now pace traces scope m =>
    unfold metrics
    dsimp only
    split
    · split
      · exact rest
      · exact enqueue _ _
    · exact rest
  | flush now pace => exact flush _

theorem logs_goesOn (c : Client) (o : Operation) : (o.logs c).GoesOn :=
  logs_part Part.goesOn_rest Part.goesOn_turn Part.goesOn_enqueue Part.goesOn_flush c o

theorem metrics_goesOn (c : Client) (o : Operation) : (o.metrics c).GoesOn :=
  metrics_part Part.goesOn_rest Part.goesOn_turn Part.goesOn_enqueue Part.goesOn_flush c o

end Operation

theorem Holds.run {c : Client} {ls : List Log} {ms : List Metric} {x : Audit}
    (h : c.Holds ls ms x) (o : Operation) :
    (o.run c).Holds (ls ++ (o.logs c).accepted c.logs) (ms ++ (o.metrics c).accepted c.metrics)
      (o.audit c x) := by
  have logs := h.passLogs o.time o.logPace (o.logs_goesOn c)
  have both := logs.passMetrics o.time o.metricPace (o.metrics_goesOn c)
  rw [metrics_passLogs] at both
  rw [o.run_eq]
  cases o with
  | work now pace => exact both.turn _
  | event now pace e => exact both.event pace e
  | log | metric => exact both
  | flush now pace => exact both.flush _

/-- A client with what its emitters accepted, the first one first, and the ledger of its transport.
-/
structure Account where
  client : Client
  logs : List Log
  metrics : List Metric
  ledger : Transport.Ledger

namespace Account

def new (c : Client) : Account := ⟨c, [], [], .empty⟩

def run (a : Account) (o : Operation) : Account where
  client := o.run a.client
  logs := a.logs ++ (o.logs a.client).accepted a.client.logs
  metrics := a.metrics ++ (o.metrics a.client).accepted a.client.metrics
  ledger :=
    match a.client.current? with
    | some p => (o.audit a.client ⟨p, a.ledger⟩).ledger
    | none => a.ledger

def after (c : Client) (os : List Operation) : Account := os.foldl run (new c)

/-- What holds of an account of a client that is attached to a transport. -/
def Holds (a : Account) : Prop :=
  ∃ p, a.client.Holds a.logs a.metrics ⟨p, a.ledger⟩

theorem Holds.run {a : Account} (h : a.Holds) (o : Operation) : (a.run o).Holds := by
  obtain ⟨p, h⟩ := h
  refine ⟨(o.audit a.client ⟨p, a.ledger⟩).transport, ?_⟩
  have ledger : (a.run o).ledger = (o.audit a.client ⟨p, a.ledger⟩).ledger := by
    rw [Account.run, h.attached.current]
  rw [ledger]
  exact h.run o

theorem holds_after {c : Client} (start : (new c).Holds) (os : List Operation) :
    (after c os).Holds :=
  List.foldlRecOn os run start fun _ h o _ => h.run o

end Account

/-! ### The barrier -/

theorem channel_new {α : Type} (enabled : Bool) (config : BatchConfig) :
    Channel (if enabled then some (Emitter.new config : Emitter α).start else none) [] [] := by
  cases enabled with
  | false => exact .absent
  | true => exact .present (Emitter.live_new config)

theorem create_cases [PatternLanguage] {o : ClientOptions} {c : Client} {ds : List Diagnostic}
    (made : create o = .ok (c, ds)) :
    c.attached = c.transport.isSome ∧
      (∀ p, c.transport = some p → ∃ s kind, p = Transport.new s kind) ∧
      Channel c.logs [] [] ∧ Channel c.metrics [] [] := by
  unfold create at made
  cases compiled : o.compile with
  | error e =>
    rw [compiled] at made
    cases made
  | ok patterns =>
    rw [compiled] at made
    obtain ⟨rfl, -⟩ := Prod.mk.inj (Except.ok.inj made)
    refine ⟨rfl, fun p hp => ?_, channel_new _ _, channel_new _ _⟩
    obtain ⟨_, -, mapped⟩ := Option.bind_eq_some_iff.mp hp
    obtain ⟨kind, -, rfl⟩ := Option.map_eq_some_iff.mp mapped
    exact ⟨_, kind, rfl⟩

theorem holds_create [PatternLanguage] {o : ClientOptions} {c : Client} {ds : List Diagnostic}
    (made : create o = .ok (c, ds)) (there : c.transport.isSome = true) :
    (Account.new c).Holds := by
  obtain ⟨attached, transports, logs, metrics⟩ := create_cases made
  obtain ⟨p, hp⟩ := Option.isSome_iff_exists.mp there
  obtain ⟨s, kind, rfl⟩ := transports p hp
  exact ⟨_, ⟨attached.trans there, hp⟩, Audit.holds_new s kind, logs, metrics⟩

theorem Channel.flushed {α : Type} {e : Option (Emitter α)} {accepted : List α}
    {batches : List (List α)} (h : Channel e accepted batches) {pace : Emitter.Pace}
    (done : ∀ em, e = some em → (em.flush pace).result = true) :
    (batches ++ (Part.flush pace).batches e).flatten = accepted := by
  cases h with
  | absent => rfl
  | present live => exact (live.flush pace).2 (done _ rfl)

theorem flushLogs_done {c : Client} {pace : Emitter.Pace}
    (done : (c.flushLogs now pace).1 = true) :
    ∀ e, c.logs = some e → (e.flush (pace.sub 0)).result = true := by
  intro e some
  simpa [flushLogs, some] using done

theorem flushMetrics_done {c : Client} {pace : Emitter.Pace}
    (done : (c.flushMetrics now pace).1 = true) :
    ∀ e, c.metrics = some e → (e.flush (pace.sub 0)).result = true := by
  intro e some
  simpa [flushMetrics, some] using done

theorem Holds.barrier {c : Client} {ls : List Log} {ms : List Metric} {x : Audit}
    (h : c.Holds ls ms x) {pace : Emitter.Pace} (done : (c.flush now pace).result = true) :
    let y := (Operation.flush now pace).audit c x
    (batchesIn Item.logs? y.transport.offered).flatten = ls ∧
      (batchesIn Item.metrics? y.transport.offered).flatten = ms ∧
      ∀ courier emitter, y.transport.carrier = .queued courier emitter →
        y.ledger.Settled y.transport := by
  intro y
  have result : (c.flush now pace).result =
      ((c.flushLogs now (pace.sub 0)).1 &&
        ((c.flushLogs now (pace.sub 0)).2.flushMetrics now (pace.sub 1)).1 &&
        (((c.flushLogs now (pace.sub 0)).2.flushMetrics now (pace.sub 1)).2.flushTransport now
          (pace.sub 2)).1) := rfl
  rw [result, Bool.and_eq_true, Bool.and_eq_true] at done
  obtain ⟨⟨logs, metrics⟩, transport⟩ := done
  rw [Operation.run_flushLogs] at metrics transport
  rw [Operation.run_flushMetrics] at transport
  -- when the transport is asked, the batches of both are among its offers
  have first := h.passLogs now ((pace.sub 0).sub 1) (Part.goesOn_flush ((pace.sub 0).sub 0))
  have second := first.passMetrics now ((pace.sub 1).sub 1)
    (Part.goesOn_flush ((pace.sub 1).sub 0))
  have flushedLogs := h.logs.flushed (flushLogs_done logs)
  have flushedMetrics := h.metrics.flushed fun e some =>
    flushMetrics_done metrics e ((metrics_passLogs _ _ c).trans some)
  rw [flushTransport_eq second.attached] at transport
  rw [metrics_passLogs] at second transport
  have offered : y.transport.offered = _ := Transport.offered_flush now (pace.sub 2) _
  have batches := logs_offered now ((pace.sub 0).sub 1) ((pace.sub 1).sub 1) x
    ((Part.flush ((pace.sub 0).sub 0)).batches c.logs)
    ((Part.flush ((pace.sub 1).sub 0)).batches c.metrics)
  rw [offered]
  refine ⟨?_, ?_, fun courier emitter queued => ?_⟩
  · exact (congrArg List.flatten batches.1).trans flushedLogs
  · exact (congrArg List.flatten batches.2).trans flushedMetrics
  · exact second.audit.settled transport queued

/-- When a client that has a transport is flushed, everything accepted before is handed to the
transport, in its order and each once; and if that has a worker, everything handed to it is settled:
what no limit and no full queue turned away got its attempt, in every batch without a panic. -/
theorem flush_settles [PatternLanguage] {o : ClientOptions} {c : Client} {ds : List Diagnostic}
    (made : create o = .ok (c, ds)) (there : c.transport.isSome = true) (os : List Operation)
    (now : Instant) (pace : Emitter.Pace)
    (done : ((Account.after c os).client.flush now pace).result = true) :
    let a := Account.after c os
    let b := a.run (.flush now pace)
    ∃ p, b.client.current? = some p ∧
      (batchesIn Item.logs? p.offered).flatten = a.logs ∧
      (batchesIn Item.metrics? p.offered).flatten = a.metrics ∧
      ∀ courier emitter, p.carrier = .queued courier emitter → b.ledger.Settled p := by
  intro a b
  obtain ⟨p, h⟩ : a.Holds := Account.holds_after (holds_create made there) os
  have after := h.run (.flush now pace)
  have ledger : b.ledger = ((Operation.flush now pace).audit a.client ⟨p, a.ledger⟩).ledger := by
    show (match a.client.current? with | some p => _ | none => _) = _
    rw [h.attached.current]
  rw [ledger]
  exact ⟨_, after.attached.current, h.barrier done⟩

/-! ### Clients of plain options -/

/-- The client of options without integrations and patterns. -/
def plain (s : Settings) : Client :=
  let transport := s.dsn.bind fun _ => s.transport.map (Transport.new s)
  { options := { s with integrations := [] }, integrations := [], patterns := ⟨[], []⟩
    sdk := sdkInfo, transport, attached := transport.isSome
    logs := if s.enableLogs then some (Emitter.new s.logConfig).start else none
    metrics := if s.enableMetrics then some (Emitter.new s.metricConfig).start else none }

theorem compile_plain [PatternLanguage] {s : Settings} (sample : s.sampleRate = 1)
    (traces : s.tracesSampleRate = 0) (errors : s.ignoreErrors = [])
    (transactions : s.ignoreTransactions = []) : s.compile = .ok ⟨[], []⟩ := by
  have one : (0 : Float32) ≤ 1 ∧ (1 : Float32) ≤ 1 := by decide +kernel
  have zero : (0 : Float32) ≤ 0 ∧ (0 : Float32) ≤ 1 := by decide +kernel
  unfold Settings.compile Settings.checkRate
  rw [sample, traces, errors, transactions]
  simp [one, zero]
  rfl

theorem validate_plain [PatternLanguage] {s : Settings} (sample : s.sampleRate = 1)
    (traces : s.tracesSampleRate = 0) (errors : s.ignoreErrors = [])
    (transactions : s.ignoreTransactions = []) : s.validate = .ok () := by
  rw [Settings.validate, compile_plain sample traces errors transactions]
  rfl

theorem create_plain [PatternLanguage] {s : Settings} (sample : s.sampleRate = 1)
    (traces : s.tracesSampleRate = 0) (errors : s.ignoreErrors = [])
    (transactions : s.ignoreTransactions = []) :
    create { s with integrations := [] } =
      .ok (plain s, creationDiagnostics { s with integrations := [] } [] s) := by
  unfold create
  rw [compile_plain sample traces errors transactions]
  rfl

/-- Settings with logs, and with a transport if there is a kind for it. -/
def logging (kind : Option TransportKind) : Settings :=
  { Settings.default with
    dsn := kind.map fun _ => ⟨.https, "key", none, "example.com", none, "/", ⟨"1"⟩⟩
    transport := kind, enableLogs := true }

theorem create_logging [PatternLanguage] (kind : Option TransportKind) :
    create { logging kind with integrations := [] } =
      .ok (plain (logging kind), creationDiagnostics { logging kind with integrations := [] } []
        (logging kind)) :=
  create_plain rfl rfl rfl rfl

def asleep : Emitter.Pace := fun _ => ⟨0, false, false⟩

def busy : Emitter.Pace := fun _ => ⟨9, false, false⟩

/-- A log and an event that the flush brings to their end. -/
theorem flush_settles_both :
    let c := plain (logging (some (.queued fun _ _ => .answered ⟨200, none, none⟩)))
    let a := Account.after c
      [.log .epoch asleep .empty default (.make .info "hello" .epoch),
        .event .epoch asleep (.empty Uuid.nil .epoch)]
    let b := a.run (.flush .epoch busy)
    c.transport.isSome = true ∧ (a.client.flush .epoch busy).result = true ∧
      a.logs.map Log.body = ["hello"] ∧
      ∃ p, b.client.current? = some p ∧
        (batchesIn Item.logs? p.offered).flatten = a.logs ∧
        (batchesIn Item.metrics? p.offered).flatten = a.metrics ∧
        ∀ courier emitter, p.carrier = .queued courier emitter → b.ledger.Settled p := by
  refine ⟨rfl, rfl, rfl, ?_⟩
  let := PatternLanguage.words
  exact flush_settles
    (create_logging (some (.queued fun _ _ => .answered ⟨200, none, none⟩))) rfl
    [.log .epoch asleep .empty default (.make .info "hello" .epoch),
      .event .epoch asleep (.empty Uuid.nil .epoch)] .epoch busy rfl

/-- Without a transport a flush succeeds although the log is handed to nobody. -/
theorem flush_without_delivery :
    let c := plain (logging none)
    let a := Account.after c [.log .epoch asleep .empty default (.make .info "hello" .epoch)]
    (∃ ds, @create .words { logging none with integrations := [] } = .ok (c, ds)) ∧
      a.logs.map Log.body = ["hello"] ∧ (a.client.flush .epoch busy).result = true ∧
      (a.client.flush .epoch busy).client.transport.isNone = true :=
  ⟨⟨_, @create_logging .words none⟩, rfl, rfl, rfl⟩

end Client

end Telemetry
