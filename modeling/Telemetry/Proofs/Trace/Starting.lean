import Telemetry.Proofs.Client.Configuration
import Telemetry.Proofs.Client.Frame
import Telemetry.Proofs.Trace.Decision

/-! Two ways to start a transaction: in a given hub, and in the hub in use. The second one leaves a
client out that is disabled, and with it what the client would say about sampling. Apart from that
decision both start the same transaction, and what is done with it later hands over the same
envelopes. -/

namespace Telemetry

/-! ### Clients of a program -/

namespace Client

/-- The clients that a program can have. -/
inductive Made : Client → Prop
  | create [PatternLanguage] {o : ClientOptions} {c : Client} {ds : List Diagnostic} :
    create o = .ok (c, ds) → Made c
  | disabled (o : ClientOptions) : Made (disabled o)
  | used {c : Client} (o : Operation) : Made c → Made (o.run c)
  | closed {c : Client} (now : Instant) (pace : Emitter.Pace) :
    Made c → Made (c.close now pace).client

variable {c : Client}

/-- Only a client with a DSN has a transport. -/
theorem Made.addressed (made : c.Made) (attached : c.current?.isSome = true) :
    c.options.dsn.isSome = true := by
  induction made with
  | @create _ o c ds made =>
    have parts := madeOf_create made
    cases dsn : c.options.dsn with
    | none => simp [current?, parts.transport, dsn] at attached
    | some dsn => rfl
  | disabled o => cases attached
  | @used c o _ ih =>
    have same := sameFrame_run c o
    rw [← same.attached] at attached
    rw [← same.options]
    exact ih attached
  | closed now pace =>
    rw [(shut_close now pace _).gone] at attached
    cases attached

theorem Made.gone (made : c.Made) (disabled : c.isEnabled = false) : c.current? = none := by
  cases attached : c.current? with
  | none => rfl
  | some p =>
    have dsn := made.addressed (by rw [attached]; rfl)
    rw [isEnabled, dsn, attached] at disabled
    cases disabled

end Client

/-- What each client has handed to its transport. -/
def World.handed (w : World) : List (List Envelope) := w.clients.map Client.handed

/-! ### The start -/

namespace Action

variable {h : HubId} {w : World}

theorem startTransaction_hub (unlocked : (w.hub h).locked = false) (c : TransactionContext) :
    startTransaction (.hub h) c w = begin c (w.hub h).layers.top.client w := by
  have found : Target.visit (.hub h) none (fun h => do return (← top h).client) w =
      (.done (w.hub h).layers.top.client, w) := bind_done (top_eq unlocked)
  exact bind_done found

theorem startTransaction_locked (locked : (w.hub h).locked = true) (c : TransactionContext) :
    startTransaction (.hub h) c w = (.blocked, w) := by
  have waited : (do return (← top h).client : Action (Option ClientId)) w = (.blocked, w) :=
    bind_blocked (top_locked locked)
  have found : Target.visit (.hub h) none (fun h => do return (← top h).client) w =
      (.blocked, w) := waited
  exact bind_blocked found

theorem startTransaction_active (current : w.inUse? = some h) (c : TransactionContext) :
    startTransaction .active c w =
      begin c (if (w.hub h).locked then none else (w.hub h).layers.top.client.filter w.isEnabled)
        w := by
  have visited : Target.visit .active none (fun h => do return (← top h).client) w =
      (.done (if (w.hub h).locked then none
        else (w.hub h).layers.top.client.filter w.isEnabled), w) := by
    rw [visit_active current]
    cases locked : (w.hub h).locked with
    | true => rfl
    | false =>
      cases client : (w.hub h).layers.top.client with
      | none => rfl
      | some k =>
        simp only [Bool.not_false, Bool.true_and, Option.any_some, Option.filter_some,
          Bool.false_eq_true, if_false]
        cases enabled : w.isEnabled k with
        | false => rfl
        | true =>
          refine (bind_done (top_eq locked)).trans ?_
          rw [client]
          rfl
  exact bind_done visited

end Action

/-! ### Later -/

/-- Nodes that were not there yet. -/
def Node.IsNew (s : Traces) : Node → Prop
  | .transaction i => s.transactions.length ≤ i
  | .span i => s.spans.length ≤ i

/-- What a program does with a node. -/
inductive Handling where
  | startChild (n : Node) (operation description : String)
  | setData (n : Node) (key : String) (value : Json)
  | setTag (n : Node) (key value : String)
  | setStatus (n : Node) (status : SpanStatus)
  | setName (i : Nat) (name : String)
  | setRequest (i : Nat) (r : Request)
  | finish (n : Node)

namespace Handling

def node : Handling → Node
  | startChild n _ _ => n
  | setData n _ _ => n
  | setTag n _ _ => n
  | setStatus n _ => n
  | setName i _ => .transaction i
  | setRequest i _ => .transaction i
  | finish n => n

def run : Handling → Action Unit
  | startChild n operation description => discard (Action.startChild n operation description)
  | setData n key value => Action.editTraces (Traces.setData n key value)
  | setTag n key value => Action.editTraces (Traces.setTag n key value)
  | setStatus n status => Action.editTraces (Traces.setStatus n status)
  | setName i name => Action.editTraces (Traces.setName i name)
  | setRequest i r => Action.editTraces (Traces.setRequest i r)
  | finish n => Action.finish n

def runAll : List Handling → Action Unit
  | [] => pure ()
  | x :: xs => do x.run; runAll xs

end Handling

/-- From a number on, transactions have no client but this one. -/
def Outline.SoleClient (k : ClientId) (n : Nat) (o : Outline) : Prop :=
  ∀ i t, n ≤ i → o.transactions[i]? = some t → t.client = none ∨ t.client = some k

namespace Outline.SoleClient

variable {k : ClientId} {n : Nat}

theorem modify {o : Outline} (h : o.SoleClient k n) (i : Nat)
    {f : TransactionOutline → TransactionOutline}
    (hf : ∀ t : TransactionOutline, (f t).client = t.client ∨ (f t).client = none)
    (spans : List SpanOutline) :
    SoleClient k n ⟨o.transactions.modify i f, spans⟩ := by
  intro j t' le changed
  rw [List.getElem?_modify, Option.map_eq_map, Option.map_eq_some_iff] at changed
  obtain ⟨t, there, rfl⟩ := changed
  by_cases same : i = j
  · rw [if_pos same]
    rcases hf t with kept | gone
    · rw [kept]
      exact h j t le there
    · exact .inl gone
  · rw [if_neg same]
    exact h j t le there

variable {s : Traces}

theorem startChild {s' : Traces} {m m' : Node} {op description : String} {id : SpanId}
    {now : Instant} (h : s.outline.SoleClient k n)
    (started : s.startChild m op description id now = some (m', s')) :
    s'.outline.SoleClient k n := by
  obtain ⟨_, _, -, -, outline⟩ := Traces.outline_startChild started
  rw [outline]
  exact h

theorem finishSpan (h : s.outline.SoleClient k n) (i : Nat) (now : Instant) :
    (s.finishSpan i now).outline.SoleClient k n := by
  cases there : s.spans[i]? with
  | none =>
    rw [Traces.finishSpan, there]
    exact h
  | some r =>
    cases ended : r.span.timestamp.isSome with
    | true =>
      rw [Traces.outline_finishSpan_ended there ended]
      exact h
    | false =>
      rw [Traces.outline_finishSpan there ended]
      exact h.modify _ (f := TransactionOutline.record _) (fun _ => .inl rfl) _

theorem finishTransaction (h : s.outline.SoleClient k n) (i : Nat) (blank : Event) :
    (s.finishTransaction i blank).2.outline.SoleClient k n := by
  rw [Traces.outline_finishTransaction]
  exact h.modify _ (fun _ => .inr rfl) _

/-- A transaction that is finished is sent to this client or to none. -/
theorem sent (h : s.outline.SoleClient k n) {i : Nat} (new : n ≤ i) {blank : Event} {c : ClientId}
    {e : Event} (finished : (s.finishTransaction i blank).1 = some (c, e)) : c = k := by
  rw [Traces.finishTransaction_fst] at finished
  obtain ⟨t, there, finished⟩ := Option.bind_eq_some_iff.mp finished
  obtain ⟨d, -, finished⟩ := Option.bind_eq_some_iff.mp finished
  obtain ⟨c, client, ⟨⟩⟩ := Option.map_eq_some_iff.mp finished
  have outlined : s.outline.transactions[i]? = some t.outline := by simp [there]
  rcases h i _ new outlined with none | sole
  · exact absurd (client.symm.trans none) nofun
  · exact Option.some.inj (client.symm.trans sole)

end Outline.SoleClient

/-- The hub in use can be entered, and transactions from a number on have no client but one that has
no transport. -/
structure World.Silent (h : HubId) (k : ClientId) (n : Nat) (w : World) : Prop where
  current : w.inUse? = some h
  unlocked : (w.hub h).locked = false
  gone : w.Has k fun c => c.current? = none
  client : w.traces.outline.SoleClient k n

namespace World.Silent

open Telemetry.Action

variable {h : HubId} {k : ClientId} {n : Nat} {w : World}

theorem edit (s : w.Silent h k n) (f : Traces → Traces)
    (kept : (f w.traces).outline.SoleClient k n) :
    ∃ w', editTraces f w = (.done (), w') ∧ w'.Silent h k n ∧ w'.handed = w.handed :=
  ⟨_, rfl, ⟨s.current, s.unlocked, s.gone, kept⟩, rfl⟩

/-- A change that the outline does not show. -/
theorem set (s : w.Silent h k n) (f : Traces → Traces)
    (same : (f w.traces).outline = w.traces.outline) :
    ∃ w', editTraces f w = (.done (), w') ∧ w'.Silent h k n ∧ w'.handed = w.handed := by
  refine s.edit f ?_
  rw [same]
  exact s.client

theorem startChild (s : w.Silent h k n) (m : Node) (operation description : String) :
    ∃ m' w', Action.startChild m operation description w = (.done m', w') ∧ w'.Silent h k n ∧
      w'.handed = w.handed := by
  rw [startChild_eq]
  cases started : w.traces.startChild m operation description w.fresh.spanId.1 w.fresh.now with
  | none => exact ⟨_, _, rfl, ⟨s.current, s.unlocked, s.gone, s.client⟩, rfl⟩
  | some child =>
    exact ⟨_, _, rfl, ⟨s.current, s.unlocked, s.gone, s.client.startChild started⟩, rfl⟩

/-- The client has nowhere to send an event to. -/
theorem process (s : w.Silent h k n) (scope : Option Scope) (hint : EventHint) (e : Event) :
    ∃ id w', processEvent k scope hint e w = (.done id, w') ∧ w'.Silent h k n ∧
      w'.handed = w.handed := by
  -- before that its workers go on, with nowhere to hand their batches to
  obtain ⟨client, there, gone⟩ := s.gone
  obtain ⟨still, same⟩ : (turned client w).current? = none ∧
    (turned client w).handed = client.handed := Client.turn_gone gone _ _
  have processed := processEvent_some there scope hint e
  rw [process_gone still] at processed
  refine ⟨_, _, processed, ⟨s.current, s.unlocked, ?_, s.client⟩, ?_⟩
  · exact ⟨_, getElem?_afterStep there _, still⟩
  · show (w.clients.set k (turned client w)).map Client.handed = w.clients.map Client.handed
    obtain ⟨inside, rfl⟩ := List.getElem?_eq_some_iff.mp there
    rw [List.map_set, same, ← List.map_set, List.set_getElem_self]

theorem finish (s : w.Silent h k n) {i : Nat} (new : n ≤ i) :
    ∃ w', Action.finish (.transaction i) w = (.done (), w') ∧ w'.Silent h k n ∧
      w'.handed = w.handed := by
  let r := w.traces.finishTransaction i (Event.fresh w.fresh).1
  let w₁ : World := { w with fresh := (Event.fresh w.fresh).2, traces := r.2 }
  have finished : w₁.Silent h k n :=
    ⟨s.current, s.unlocked, s.gone, s.client.finishTransaction i _⟩
  rw [finish_transaction]
  show ∃ w', sendFinished r.1 w₁ = _ ∧ _
  cases sent : r.1 with
  | none => exact ⟨w₁, rfl, finished, rfl⟩
  | some sent' =>
    obtain ⟨c, e⟩ := sent'
    obtain rfl : c = k := s.client.sent new sent
    obtain ⟨id, w', processed, rest⟩ :=
      finished.process (some (w₁.hub h).layers.top.scope) .none e
    refine ⟨w', ?_, rest⟩
    refine (bind_done (currentHub_eq finished.current)).trans ?_
    refine (bind_done (top_eq finished.unlocked)).trans ?_
    exact bind_done processed

theorem step (s : w.Silent h k n) (x : Handling)
    (new : ∀ i, x.node = .transaction i → n ≤ i) :
    ∃ w', x.run w = (.done (), w') ∧ w'.Silent h k n ∧ w'.handed = w.handed := by
  cases x with
  | startChild m operation description =>
    obtain ⟨m', w', started, rest⟩ := s.startChild m operation description
    have ran : discard (Action.startChild m operation description) w = (.done (), w') :=
      bind_done (f := fun _ => pure ()) started
    exact ⟨w', ran, rest⟩
  | setData m key value => exact s.set _ (Traces.outline_setData _ m key value)
  | setTag m key value => exact s.set _ (Traces.outline_setTag _ m key value)
  | setStatus m status => exact s.set _ (Traces.outline_setStatus _ m status)
  | setName i name => exact s.set _ (Traces.outline_setName _ i name)
  | setRequest i r => exact s.set _ (Traces.outline_setRequest _ i r)
  | finish m =>
    cases m with
    | span i =>
      obtain ⟨w', edited, rest⟩ := s.edit _ (s.client.finishSpan i w.fresh.now)
      have timed : now w = (.done w.fresh.now, w) := rfl
      exact ⟨w', (bind_done timed).trans edited, rest⟩
    | transaction i => exact s.finish (new i rfl)

theorem runAll (s : w.Silent h k n) (xs : List Handling)
    (new : ∀ x ∈ xs, ∀ i, x.node = .transaction i → n ≤ i) :
    ∃ w', Handling.runAll xs w = (.done (), w') ∧ w'.handed = w.handed := by
  induction xs generalizing w with
  | nil => exact ⟨w, rfl, rfl⟩
  | cons x xs ih =>
    obtain ⟨w₁, first, silent, handed⟩ := s.step x (new x List.mem_cons_self)
    obtain ⟨w', rest, handed'⟩ := ih silent fun y hy => new y (List.mem_cons_of_mem x hy)
    exact ⟨w', (bind_done first).trans rest, handed'.trans handed⟩

end World.Silent

/-! ### The two starts -/

/-- What two transactions have in common that were started of one context. -/
structure Transaction.Alike (t t' : Transaction) : Prop where
  name : t.name = t'.name
  operation : t.context.op = t'.context.op
  traceId : t.context.traceId = t'.context.traceId
  parentSpanId : t.context.parentSpanId = t'.context.parentSpanId

namespace Action

variable {h : HubId} {w : World}

/-- The hub has a client that is disabled and yet would sample, if the trace leaves it the decision.
-/
def WouldSample (h : HubId) (c : TransactionContext) (w : World) : Prop :=
  c.sampled = none ∧ ∃ k client, (w.hub h).layers.top.client = some k ∧
    w.clients[k]? = some client ∧ client.isEnabled = false ∧
      (client.sampleTransaction c w.fresh).1 = true

theorem isEnabled_eq {k : ClientId} {client : Client} (there : w.clients[k]? = some client) :
    w.isEnabled k = client.isEnabled := by
  rw [World.isEnabled, there]
  rfl

theorem decision_eq_iff
    (made : ∀ k, (w.hub h).layers.top.client = some k → w.Has k Client.Made)
    (c : TransactionContext) :
    (decision c (w.hub h).layers.top.client w).1 =
        (decision c ((w.hub h).layers.top.client.filter w.isEnabled) w).1 ↔
      ¬ WouldSample h c w := by
  unfold WouldSample
  cases id : (w.hub h).layers.top.client with
  | none => simp
  | some k =>
    obtain ⟨client, there, -⟩ := made k id
    have enabled := isEnabled_eq there
    rw [Option.filter_some, enabled]
    cases use : client.isEnabled with
    | true => simp [there, use]
    | false =>
      have asked : decision c (some k) w = client.sampleTransaction c w.fresh := by
        rw [decision, Option.bind_some, there]
      have left : decision c none w = (c.sampled.getD false, w.fresh) := rfl
      rw [asked, if_neg Bool.false_ne_true, left]
      cases decided : c.sampled with
      | some d => simp [Client.sampleTransaction_decided decided]
      | none => simp [there, use]

theorem silent_begin {k : ClientId} (current : w.inUse? = some h)
    (unlocked : (w.hub h).locked = false) (gone : w.Has k fun c => c.current? = none)
    (c : TransactionContext) {id : Option ClientId} (sole : id = none ∨ id = some k) :
    (begin c id w).2.Silent h k w.traces.transactions.length := by
  rw [begin_eq]
  refine ⟨current, unlocked, gone, ?_⟩
  rw [Traces.outline_addTransaction]
  intro i t new there
  rw [List.getElem?_append_right (by simpa using new)] at there
  have last := List.mem_of_getElem? there
  obtain rfl := List.mem_singleton.mp last
  show (if _ then id else none) = none ∨ (if _ then id else none) = some k
  split
  · exact sole
  · exact .inl rfl

/-- What is done with the transaction later leads to the same in both cases. -/
theorem begin_handed (current : w.inUse? = some h) (unlocked : (w.hub h).locked = false)
    (made : ∀ k, (w.hub h).layers.top.client = some k → w.Has k Client.Made)
    (c : TransactionContext) (xs : List Handling) (new : ∀ x ∈ xs, x.node.IsNew w.traces) :
    let r := Handling.runAll xs (begin c (w.hub h).layers.top.client w).2
    let r' := Handling.runAll xs
      (begin c ((w.hub h).layers.top.client.filter w.isEnabled) w).2
    r.1 = r'.1 ∧ r.2.handed = r'.2.handed := by
  have fresh (x : Handling) (hx : x ∈ xs) (i : Nat) (root : x.node = .transaction i) :
      w.traces.transactions.length ≤ i := by
    have old := new x hx
    rwa [root] at old
  -- only with a disabled client the runs differ, and then neither hands anything over
  cases id : (w.hub h).layers.top.client with
  | none => exact ⟨rfl, rfl⟩
  | some k =>
    obtain ⟨client, there, arose⟩ := made k id
    rw [Option.filter_some, isEnabled_eq there]
    cases use : client.isEnabled with
    | true => exact ⟨rfl, rfl⟩
    | false =>
      have gone : w.Has k fun c => c.current? = none := ⟨client, there, arose.gone use⟩
      obtain ⟨w₁, ran, handed⟩ :=
        (silent_begin current unlocked gone c (.inr rfl)).runAll xs fresh
      obtain ⟨w₂, ran', handed'⟩ :=
        (silent_begin current unlocked gone c (.inl rfl)).runAll xs fresh
      have before (id : Option ClientId) : (begin c id w).2.handed = w.handed := by
        rw [begin_eq]
        rfl
      rw [if_neg Bool.false_ne_true, ran, ran']
      exact ⟨rfl, handed.trans ((before _).trans ((before _).symm.trans handed'.symm))⟩

/-- A transaction is started in the hub in use, by name or as the one in use, whatever client the hub
has. While the hub is written to, the first start waits forever and the second one does not. Else
both give a transaction of the same name, operation, trace and parent, and what is done with it and
its spans later hands over the same envelopes. The sampling decision, in the transaction, its context
and its header, is the same too, unless a disabled client would have sampled. -/
theorem starts_alike (current : w.inUse? = some h)
    (made : ∀ k, (w.hub h).layers.top.client = some k → w.Has k Client.Made)
    (c : TransactionContext) :
    ((w.hub h).locked = true → startTransaction (.hub h) c w = (.blocked, w) ∧
      ∃ n w', startTransaction .active c w = (.done n, w')) ∧
    ((w.hub h).locked = false → ∃ (i : Nat) (w₁ w₂ : World) (t t' : Transaction),
      startTransaction (.hub h) c w = (.done (.transaction i), w₁) ∧
      startTransaction .active c w = (.done (.transaction i), w₂) ∧
      w₁.traces.transactions[i]? = some t ∧ w₂.traces.transactions[i]? = some t' ∧ t.Alike t' ∧
      (∀ xs : List Handling, (∀ x ∈ xs, x.node.IsNew w.traces) →
        (Handling.runAll xs w₁).1 = (Handling.runAll xs w₂).1 ∧
          (Handling.runAll xs w₁).2.handed = (Handling.runAll xs w₂).2.handed) ∧
      ((t.sampled = t'.sampled ∧ t.context.sampled = t'.context.sampled ∧
          (w₁.traces.header? (.transaction i)).bind TraceHeader.sampled =
            (w₂.traces.header? (.transaction i)).bind TraceHeader.sampled) ↔
        ¬ WouldSample h c w)) := by
  have active := startTransaction_active current c
  constructor
  · intro locked
    rw [locked, if_pos rfl, begin_eq] at active
    exact ⟨startTransaction_locked locked c, _, _, active⟩
  intro unlocked
  have hub := startTransaction_hub unlocked c
  have same := decision_eq_iff made c
  have later := begin_handed current unlocked made c
  rw [unlocked, if_neg Bool.false_ne_true, begin_eq] at active
  rw [begin_eq] at hub
  rw [begin_eq, begin_eq] at later
  have there (id : Option ClientId) :
      (w.traces.addTransaction (beginning c id w)).2.transactions[w.traces.transactions.length]? =
        some (beginning c id w) := List.getElem?_concat_length
  refine ⟨_, _, _, _, _, hub, active, there _, there _, ⟨rfl, rfl, rfl, rfl⟩, later, ?_⟩
  have flag (id : Option ClientId) :
      ((w.traces.addTransaction (beginning c id w)).2.header?
        (.transaction w.traces.transactions.length)).bind TraceHeader.sampled =
          some (decision c id w).1 := by
    rw [Traces.header?, there]
    rfl
  rw [← same, flag, flag]
  exact ⟨fun agree => agree.1, fun agree => ⟨agree, congrArg some agree, congrArg some agree⟩⟩

/-- A client that is disabled, and a trace that brings the decision to sample it. -/
theorem starts_alike_decided :
    let w : World :=
      { World.single (.plain Settings.default) Client.asleep with
        thread := { ThreadState.new with bound := some 0 } }
    let c : TransactionContext := ⟨"n", "o", HexId.ofNat 32 5, none, some true⟩
    w.inUse? = some 0 ∧
      (∀ k, (w.hub 0).layers.top.client = some k → w.Has k Client.Made) ∧
      (w.hub 0).locked = false ∧ ∃ (i : Nat) (w₁ w₂ : World) (t t' : Transaction),
        startTransaction (.hub 0) c w = (.done (.transaction i), w₁) ∧
        startTransaction .active c w = (.done (.transaction i), w₂) ∧
        w₁.traces.transactions[i]? = some t ∧ w₂.traces.transactions[i]? = some t' ∧
        t.Alike t' ∧ t.sampled = t'.sampled := by
  intro w c
  have made : ∀ k, (w.hub 0).layers.top.client = some k → w.Has k Client.Made := by
    rintro k ⟨⟩
    let := PatternLanguage.words
    exact ⟨_, rfl, .create (Client.create_plain (s := Settings.default) rfl rfl rfl rfl)⟩
  have undecided : ¬ WouldSample 0 c w := nofun
  obtain ⟨i, w₁, w₂, t, t', hub, active, first, second, alike, -, same⟩ :=
    (starts_alike (h := 0) (w := w) rfl made c).2 rfl
  exact ⟨rfl, made, rfl, i, w₁, w₂, t, t', hub, active, first, second, alike,
    (same.mpr undecided).1⟩

/-- A client that is disabled and samples everything, and a trace that leaves it the decision. -/
theorem disabled_client_samples :
    let w : World :=
      { World.single (.plain { Settings.default with tracesSampleRate := 1 }) Client.asleep with
        thread := { ThreadState.new with bound := some 0 } }
    let c : TransactionContext := ⟨"n", "o", HexId.ofNat 32 5, none, none⟩
    let sampled (t : Target) :=
      (startTransaction t c w).2.traces.transactions.map Transaction.sampled
    w.inUse? = some 0 ∧ sampled (.hub 0) = [true] ∧ sampled .active = [false] := by
  decide +kernel

end Action

end Telemetry
