import Telemetry.Proofs.Client.Closing
import Telemetry.Proofs.Hub.Passing

/-! The identifier that a capture returns. Either nothing was handed over for the event, and the
identifier is nil; or one envelope was, made of the event as its way left it, and the identifier is
that event's. The two look the same if a callback took the identifier away. -/

namespace Telemetry

/-! ### Envelopes of events -/

/-- Whether an item comes from an event rather than from the worker of an emitter. -/
def Item.isCaptured : Item → Bool
  | .logs _ => false
  | .metrics _ => false
  | _ => true

theorem isCaptured_ofEvent (e : Event) : (Item.ofEvent e).isCaptured = true := by
  unfold Item.ofEvent
  split <;> rfl

namespace Client

variable {now : Instant}

/-- The envelopes of events that a client has handed to its transport. -/
def captured (c : Client) : List Envelope := c.handed.filter fun e => e.items.all Item.isCaptured

theorem captured_handOn (pace : Emitter.Pace) {is : List Item}
    (batches : ∀ i ∈ is, i.isCaptured = false) (c : Client) :
    (c.handOn now pace is).captured = c.captured ∧
      (c.handOn now pace is).current?.isSome = c.current?.isSome := by
  obtain ⟨handed, still⟩ := handOn_handed now pace is c
  refine ⟨?_, still⟩
  have none : (is.map Envelope.ofItem).filter (fun e => e.items.all Item.isCaptured) = [] := by
    rw [List.filter_eq_nil_iff]
    intro e he
    obtain ⟨i, hi, rfl⟩ := List.mem_map.mp he
    simp [Envelope.ofItem, Envelope.add, Envelope.empty, batches i hi]
  rw [captured, handed, List.filter_append]
  split
  · rw [none, List.append_nil]
    rfl
  · exact List.append_nil _

theorem captured_passLogs (now : Instant) (pace : Emitter.Pace) (part : Part Log) (c : Client) :
    (c.passLogs now pace part).captured = c.captured ∧
      (c.passLogs now pace part).current?.isSome = c.current?.isSome := by
  refine captured_handOn pace (fun i hi => ?_) { c with logs := _ }
  obtain ⟨b, -, rfl⟩ := List.mem_map.mp hi
  rfl

theorem captured_passMetrics (now : Instant) (pace : Emitter.Pace) (part : Part Metric)
    (c : Client) :
    (c.passMetrics now pace part).captured = c.captured ∧
      (c.passMetrics now pace part).current?.isSome = c.current?.isSome := by
  refine captured_handOn pace (fun i hi => ?_) { c with metrics := _ }
  obtain ⟨b, -, rfl⟩ := List.mem_map.mp hi
  rfl

/-- The workers hand over no envelope of an event. -/
theorem captured_turn (now : Instant) (pace : Emitter.Pace) (c : Client) :
    (c.turn now pace).captured = c.captured ∧
      (c.turn now pace).current?.isSome = c.current?.isSome := by
  obtain ⟨first, still⟩ := captured_passLogs now (pace.sub 1) (.turn (pace.sub 0).turn) c
  obtain ⟨second, still'⟩ := captured_passMetrics now (pace.sub 3)
    (.turn (pace.sub 2).turn) (c.passLogs now (pace.sub 1) (.turn (pace.sub 0).turn))
  have turned : c.turn now pace = _ := (Operation.work now pace).run_eq c
  obtain ⟨third, still''⟩ := turn_handed now (pace.sub 4).turn
    ((c.passLogs now (pace.sub 1) (.turn (pace.sub 0).turn)).passMetrics now (pace.sub 3)
      (.turn (pace.sub 2).turn))
  rw [turned, ← first, ← second, ← still, ← still']
  exact ⟨congrArg (List.filter _) third, still''⟩

theorem captured_send (now : Instant) (pace : Emitter.Pace) (e : Event) {c : Client}
    (attached : c.current?.isSome = true) :
    (c.send now pace (.ofItem (.ofEvent e))).client.captured =
      c.captured ++ [.ofItem (.ofEvent e)] := by
  have handed := (send_handed now pace (.ofItem (.ofEvent e)) c).1
  have own : (Envelope.ofItem (.ofEvent e)).items = [.ofEvent e] := rfl
  rw [captured, handed, if_pos attached, List.filter_append]
  simp [captured, own, isCaptured_ofEvent]

end Client

/-- The envelopes of events that each client has handed to its transport. -/
def World.captured (w : World) : List (List Envelope) := w.clients.map Client.captured

namespace Action

variable {α : Type} {c : ClientId} {client : Client} {w : World}

theorem captured_afterStep (r : Client.Step α) :
    (afterStep c r w).captured = w.captured.set c r.client.captured :=
  List.map_set

theorem set_captured (there : w.clients[c]? = some client) :
    w.captured.set c client.captured = w.captured := by
  obtain ⟨inside, rfl⟩ := List.getElem?_eq_some_iff.mp there
  rw [World.captured, ← List.map_set, List.set_getElem_self]

theorem captured_afterTurn (there : w.clients[c]? = some client) :
    (afterTurn c client w).captured = w.captured := by
  have same : (turned client w).captured = client.captured := (Client.captured_turn _ _ client).1
  rw [afterTurn, captured_afterStep, same, set_captured there]

theorem sendEnvelope_cases (there : w.clients[c]? = some client)
    (attached : client.current?.isSome = true) (e : Event) :
    ∃ r w', sendEnvelope c (.ofItem (.ofEvent e)) w = (r, w') ∧ w'.hubs = w.hubs ∧
      w'.captured = w.captured.set c (client.captured ++ [.ofItem (.ofEvent e)]) ∧
      (r = .done () ∨ r = .panicked requestPanic) := by
  obtain ⟨same, still⟩ :=
    Client.captured_turn w.fresh.now ((w.pace.sub w.calls).sub 0) client
  have sent := Client.captured_send w.fresh.now ((w.pace.sub w.calls).sub 1) e
    (still.trans attached)
  refine ⟨_, _, onClient_some there () _, rfl, ?_, ?_⟩
  · rw [captured_afterStep, sent, same]
  · split
    · exact .inr rfl
    · exact .inl rfl

/-- What the way of an event through a client comes to: nothing is handed over, or one envelope. -/
theorem process_cases (there : w.clients[c]? = some client) (scope : Option Scope)
    (hint : EventHint) (e : Event) (stack : Option Stacktrace) (traces : Traces) :
    ∃ r w', client.process (passage c client scope hint) stack traces scope e w = (r, w') ∧
      w'.hubs = w.hubs ∧
      ((∃ verdict, r = .done verdict ∧ verdict.id = Uuid.nil ∧ w'.captured = w.captured) ∨
        ∃ e' w₁, (client.prepare (passage c client scope hint) stack traces scope e).run w =
            (.done (.ok e'), w₁) ∧
          w'.captured = w.captured.set c (client.captured ++ [.ofItem (.ofEvent e')]) ∧
          (r = .done (.sent e') ∨ r = .panicked requestPanic)) := by
  cases current : client.current? with
  | none =>
    rw [process_gone current]
    exact ⟨_, _, rfl, rfl, .inl ⟨_, rfl, rfl, rfl⟩⟩
  | some p =>
    have attached : client.current?.isSome = true := by rw [current]; rfl
    obtain ⟨r, fresh, prepared, processed⟩ := process_eq attached c scope hint e stack traces w
    rw [processed]
    cases r with
    | error d => exact ⟨_, _, rfl, rfl, .inl ⟨.dropped d, rfl, rfl, rfl⟩⟩
    | ok e' =>
      rw [afterPrepare_ok]
      split
      · exact ⟨_, _, rfl, rfl, .inl ⟨_, rfl, rfl, rfl⟩⟩
      · have there' : ({ w with fresh } : World).clients[c]? = some client := there
        obtain ⟨r, w', sent, hubs, captured, rfl | rfl⟩ := sendEnvelope_cases there' attached e'
        · exact ⟨_, _, bind_done sent, hubs, .inr ⟨e', _, prepared, captured, .inl rfl⟩⟩
        · exact ⟨_, _, bind_panicked sent, hubs, .inr ⟨e', _, prepared, captured, .inr rfl⟩⟩

/-- What the way of an event through a client leaves of it, if it gets to its end. -/
def Prepared (c : ClientId) (client : Client) (scope : Option Scope) (hint : EventHint) (e : Event)
    (w : World) (e' : Event) : Prop :=
  ∃ w', ((turned client w).prepare (passage c (turned client w) scope hint) w.stack w.traces scope
    e).run (afterTurn c client w) = (.done (.ok e'), w')

theorem processEvent_cases (there : w.clients[c]? = some client) (scope : Option Scope)
    (hint : EventHint) (e : Event) :
    ∃ r w', processEvent c scope hint e w = (r, w') ∧ w'.hubs = w.hubs ∧
      ((r = .done Uuid.nil ∧ w'.captured = w.captured) ∨
        ∃ e', Prepared c client scope hint e w e' ∧
          w'.captured = w.captured.set c (client.captured ++ [.ofItem (.ofEvent e')]) ∧
          (r = .done e'.id ∨ r = .panicked requestPanic)) := by
  have before := captured_afterTurn there
  have same : (turned client w).captured = client.captured := (Client.captured_turn _ _ client).1
  rw [processEvent_some there]
  obtain ⟨r, w', processed, hubs, verdict | ⟨e', w₁, prepared, captured, ended⟩⟩ :=
    process_cases (getElem?_afterStep there _) scope hint e w.stack w.traces
  · obtain ⟨verdict, rfl, nil, captured⟩ := verdict
    refine ⟨_, _, bind_done processed, hubs, .inl ⟨?_, captured.trans before⟩⟩
    rw [← nil]
  · have captured := captured.trans (congr (congrArg (fun l => List.set l c) before) (by rw [same]))
    rcases ended with rfl | rfl
    · exact ⟨_, _, bind_done processed, hubs,
        .inr ⟨e', ⟨_, prepared⟩, captured, .inl rfl⟩⟩
    · exact ⟨_, _, bind_panicked processed, hubs,
        .inr ⟨e', ⟨_, prepared⟩, captured, .inr rfl⟩⟩

/-! ### Captures -/

theorem getElem?_hub {h : HubId} (client : (w.hub h).layers.top.client = some c) :
    w.hubs[h]? = some (w.hub h) := by
  unfold World.hub at client ⊢
  cases hub : w.hubs[h]? with
  | none =>
    rw [hub] at client
    cases client
  | some hub => rfl

theorem hub_editHub {h : HubId} (client : (w.hub h).layers.top.client = some c) (f : Hub → Hub) :
    (w.editHub h f).hub h = f (w.hub h) :=
  World.hub_editHub_self (List.getElem?_eq_some_iff.mp (getElem?_hub client)).1 f

/-- One envelope was handed over: that of `e'`, which the way of `e` through the client of a hub has
left of it. -/
def Sent (h : HubId) (hint : EventHint) (e : Event) (w w' : World) (e' : Event) : Prop :=
  ∃ c client, (w.hub h).layers.top.client = some c ∧ w.clients[c]? = some client ∧
    Prepared c client (some (w.hub h).layers.top.scope) hint e w e' ∧
    w'.captured = w.captured.set c (client.captured ++ [.ofItem (.ofEvent e')])

/-- The identifier that a hub remembers after one was returned. -/
def remembered (id : Uuid) (last : Option Uuid) : Option Uuid := if id.isNil then last else some id

theorem remember_cases {h : HubId} (client : (w.hub h).layers.top.client = some c) (id : Uuid)
    {w' : World} (hubs : w'.hubs = w.hubs) :
    ∃ w'', (do
        if !id.isNil then
          Run.modify (World.editHub h fun hub => { hub with lastEventId := some id })
        return id : Action Uuid) w' = (.done id, w'') ∧ w''.captured = w'.captured ∧
      (w''.hub h).lastEventId = remembered id (w.hub h).lastEventId := by
  have same : w'.hub h = w.hub h := by rw [World.hub, hubs, World.hub]
  unfold remembered
  cases nil : id.isNil with
  | true => exact ⟨w', rfl, rfl, congrArg Hub.lastEventId same⟩
  | false =>
    refine ⟨w'.editHub h fun hub => { hub with lastEventId := some id }, rfl, rfl, ?_⟩
    rw [hub_editHub (by rw [same]; exact client)]
    rfl

/-- A capture waits for ever, or it hands nothing over, or one envelope. -/
theorem captureIn_cases (h : HubId) (hint : EventHint) (e : Event) (w : World) :
    ∃ r w', captureIn h hint e w = (r, w') ∧
      ((r = .blocked ∧ (w.hub h).locked = true ∧ w' = w) ∨
        (r = .done Uuid.nil ∧ w'.captured = w.captured ∧
          (w'.hub h).lastEventId = (w.hub h).lastEventId) ∨
        ∃ e', Sent h hint e w w' e' ∧
          ((r = .done e'.id ∧
              (w'.hub h).lastEventId = remembered e'.id (w.hub h).lastEventId) ∨
            r = .panicked requestPanic ∧ (w'.hub h).lastEventId = (w.hub h).lastEventId)) := by
  cases locked : (w.hub h).locked with
  | true => exact ⟨_, _, bind_blocked (top_locked locked), .inl ⟨rfl, rfl, rfl⟩⟩
  | false =>
    have entered : captureIn h hint e w = _ := bind_done (top_eq locked)
    cases client : (w.hub h).layers.top.client with
    | none =>
      rw [client] at entered
      exact ⟨_, _, entered, .inr (.inl ⟨rfl, rfl, rfl⟩)⟩
    | some c =>
      rw [client] at entered
      rw [entered]
      -- a client that is not there takes the event no further than one without a transport
      cases there : w.clients[c]? with
      | none =>
        have processed := processEvent_none there (some (w.hub h).layers.top.scope) hint e
        exact ⟨_, _, bind_done processed, .inr (.inl ⟨rfl, rfl, rfl⟩)⟩
      | some cl =>
        obtain ⟨r, w', processed, hubs, ⟨rfl, captured⟩ | ⟨e', prepared, captured, ended⟩⟩ :=
          processEvent_cases there (some (w.hub h).layers.top.scope) hint e
        · obtain ⟨w'', remembers, same, last⟩ := remember_cases client Uuid.nil hubs
          exact ⟨_, _, (bind_done processed).trans remembers,
            .inr (.inl ⟨rfl, same.trans captured, last⟩)⟩
        · rcases ended with rfl | rfl
          · obtain ⟨w'', remembers, same, last⟩ := remember_cases client e'.id hubs
            have sent : Sent h hint e w w'' e' :=
              ⟨c, cl, client, there, prepared, same.trans captured⟩
            exact ⟨_, _, (bind_done processed).trans remembers,
              .inr (.inr ⟨e', sent, .inl ⟨rfl, last⟩⟩)⟩
          · have sent : Sent h hint e w w' e' := ⟨c, cl, client, there, prepared, captured⟩
            have last : (w'.hub h).lastEventId = (w.hub h).lastEventId := by
              rw [World.hub, hubs, World.hub]
            exact ⟨_, _, bind_panicked processed, .inr (.inr ⟨e', sent, .inr ⟨rfl, last⟩⟩)⟩

theorem Sent.unique {h : HubId} {hint : EventHint} {e e₁ e₂ : Event} {w' : World}
    (first : Sent h hint e w w' e₁) (second : Sent h hint e w w' e₂) : e₁ = e₂ := by
  obtain ⟨c, cl, client, there, ⟨_, prepared⟩, -⟩ := first
  obtain ⟨c', cl', client', there', ⟨_, prepared'⟩, -⟩ := second
  obtain rfl : c = c' := Option.some.inj (client.symm.trans client')
  obtain rfl : cl = cl' := Option.some.inj (there.symm.trans there')
  have same := prepared.symm.trans prepared'
  exact Except.ok.inj (Outcome.done.inj (Prod.mk.inj same).1)

theorem Sent.captured_ne {h : HubId} {hint : EventHint} {e e' : Event} {w' : World}
    (sent : Sent h hint e w w' e') : w'.captured ≠ w.captured := by
  obtain ⟨c, cl, -, there, -, captured⟩ := sent
  intro same
  obtain ⟨inside, rfl⟩ := List.getElem?_eq_some_iff.mp there
  have at' := congrArg (fun l => l[c]?) (captured.symm.trans same)
  simp [World.captured, inside] at at'

/-- What a capture returns and what it hands over: a nil identifier says that nothing was handed
over, or that the event had lost its own on its way; any other one is that of the event in the one
envelope, and the hub remembers it. A capture that panics has handed its envelope over, and only one
in a hub that is being written to waits for ever. -/
theorem captureEvent_tells (h : HubId) (hint : EventHint) (e : Event) (w : World) :
    let r := captureEvent (.hub h) hint e w
    (∀ id, r.1 = .done id →
      (id.isNil = true ↔
        r.2.captured = w.captured ∨ ∃ e', Sent h hint e w r.2 e' ∧ e'.id.isNil = true) ∧
      (r.2.captured = w.captured ∨ ∃ e', Sent h hint e w r.2 e' ∧ e'.id = id) ∧
      (r.2.hub h).lastEventId = if id.isNil then (w.hub h).lastEventId else some id) ∧
    (∀ p, r.1 = .panicked p → ∃ e', Sent h hint e w r.2 e') ∧
    (r.1 = .blocked → (w.hub h).locked = true) := by
  intro r
  obtain ⟨out, w', captured, cases⟩ := captureIn_cases h hint e w
  have outcome : r = (out, w') := captured
  rw [outcome]
  rcases cases with ⟨rfl, locked, rfl⟩ | ⟨rfl, same, last⟩ | ⟨e', sent, ⟨rfl, last⟩ | ⟨rfl, last⟩⟩
  · exact ⟨nofun, nofun, fun _ => locked⟩
  · refine ⟨?_, nofun, nofun⟩
    rintro _ ⟨⟩
    exact ⟨⟨fun _ => .inl same, fun _ => rfl⟩, .inl same, last⟩
  · refine ⟨?_, nofun, nofun⟩
    rintro _ ⟨⟩
    refine ⟨⟨fun nil => .inr ⟨e', sent, nil⟩, ?_⟩, .inr ⟨e', sent, rfl⟩, last⟩
    rintro (same | ⟨e'', sent', nil⟩)
    · exact absurd same sent.captured_ne
    · rw [sent.unique sent']
      exact nil
  · exact ⟨nofun, fun _ _ => ⟨e', sent⟩, nofun⟩

/-- A client that collects transactions, and takes their identifiers away if it is told so. -/
def collecting (clears : Bool) : Client :=
  .plain
    { Client.logging (some (.collecting fun _ => false)) with
      beforeSendTransaction := some fun e _ =>
        some (if clears then { e with id := Uuid.nil } else e) }

def transaction : Event := { Event.empty (Uuid.random 1) .epoch with kind := .transaction }

/-- A transaction that is handed over under the identifier that its capture returns. -/
theorem captureEvent_tells_transaction :
    let w := World.single (collecting false) Client.asleep
    let r := captureEvent (.hub 0) .none transaction w
    r.1 = .done (Uuid.random 1) ∧ (Uuid.random 1).isNil = false ∧
      (r.2.captured = w.captured ∨
        ∃ e', Sent 0 .none transaction w r.2 e' ∧ e'.id = Uuid.random 1) ∧
      (r.2.hub 0).lastEventId = some (Uuid.random 1) := by
  have tells := (captureEvent_tells 0 .none transaction
    (World.single (collecting false) Client.asleep)).1 (Uuid.random 1) rfl
  exact ⟨rfl, rfl, tells.2⟩

/-- A callback takes the identifier away: nil is returned, and one envelope was handed over. -/
theorem captureEvent_nil_sent :
    let w := World.single (collecting true) Client.asleep
    let r := captureEvent (.hub 0) .none transaction w
    r.1 = .done Uuid.nil ∧ w.captured.map List.length = [0] ∧
      r.2.captured.map List.length = [1] ∧ (r.2.hub 0).lastEventId = none :=
  ⟨rfl, rfl, rfl, rfl⟩

end Action

end Telemetry
