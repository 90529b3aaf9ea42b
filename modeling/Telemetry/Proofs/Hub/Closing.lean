import Telemetry.Proofs.Client.Closing
import Telemetry.Proofs.Hub.Passing

/-! Hubs after their client was closed. Whatever is captured in any hub, a client meets it as
operations of its own; so a client that is shut hands nothing over any more, for whatever may go on
around it. -/

namespace Telemetry

/-! ### What is kept -/

namespace Run

variable {σ α β : Type}

/-- However it ends, a computation leaves a property of the state as it was. -/
def Keeps (P : σ → Prop) (x : Run σ α) : Prop := ∀ s, P s → P (x s).2

variable {P : σ → Prop}

theorem Keeps.pure (a : α) : Keeps P (Pure.pure a : Run σ α) := fun _ h => h

theorem Keeps.get : Keeps P (Run.get : Run σ σ) := fun _ h => h

theorem Keeps.bind {x : Run σ α} {f : α → Run σ β} (hx : Keeps P x) (hf : ∀ a, Keeps P (f a)) :
    Keeps P (x >>= f) := by
  intro s h
  have first := hx s h
  show P (Run.bind x f s).2
  unfold Run.bind
  rcases ran : x s with ⟨r, s'⟩
  rw [ran] at first
  cases r with
  | done a => exact hf a s' first
  | panicked p => exact first
  | blocked => exact first

end Run

/-- There is this client, and the property holds of it. -/
def World.Has (k : ClientId) (Q : Client → Prop) (w : World) : Prop :=
  ∃ c, w.clients[k]? = some c ∧ Q c

/-- A property of clients that their operations keep. -/
def Client.Lasting (Q : Client → Prop) : Prop := ∀ c (o : Client.Operation), Q c → Q (o.run c)

namespace Action

open Run Telemetry.Client

variable {α β : Type} {k : ClientId} {Q : Client → Prop}

/-- What has to do with no client keeps everything about clients. -/
theorem keeps_aside {x : Action α} (aside : ∀ w, (x w).2.clients = w.clients) :
    Keeps (World.Has k Q) x := by
  rintro w ⟨c, there, holds⟩
  exact ⟨c, by rw [aside, there], holds⟩

theorem layers_world (h : HubId) (w : World) : (layers h w).2 = w := by
  cases locked : (w.hub h).locked with
  | true => rw [layers_locked locked]
  | false => rw [layers_eq locked]

theorem keeps_layers (h : HubId) : Keeps (World.Has k Q) (layers h) :=
  keeps_aside fun w => by rw [layers_world]

theorem keeps_top {h : HubId} : Keeps (World.Has k Q) (top h) :=
  .bind (keeps_layers h) fun _ => .pure _

theorem keeps_currentHub : Keeps (World.Has k Q) currentHub := by
  refine .bind (keeps_aside fun _ => rfl) fun thread => ?_
  split
  · exact .pure _
  · refine .bind .get fun w => ?_
    split
    · exact .pure _
    · split
      · exact .pure _
      · refine .bind ?_ fun h => .bind (keeps_aside fun _ => rfl) fun _ => .pure _
        exact .bind keeps_top fun top => keeps_aside fun _ => rfl

theorem keeps_resolve (t : Target) : Keeps (World.Has k Q) t.resolve := by
  cases t with
  | hub h => exact .pure h
  | active => exact keeps_currentHub

theorem keeps_find (t : Target) : Keeps (World.Has k Q) t.find? := by
  cases t with
  | hub h => exact .pure (some h)
  | active =>
    exact .bind keeps_currentHub fun _ => .bind (keeps_aside fun _ => rfl) fun _ => .pure _

theorem keeps_visit (t : Target) (default : α) {f : HubId → Action α}
    (hf : ∀ h, Keeps (World.Has k Q) (f h)) : Keeps (World.Has k Q) (t.visit default f) := by
  refine .bind (keeps_find t) fun found => ?_
  cases found with
  | some h => exact hf h
  | none => exact .pure _

theorem keeps_onClient (lasting : Lasting Q) (c : ClientId) (default : α)
    {f : Instant → Emitter.Pace → Client → Client.Step α}
    (keeps : ∀ now pace client, Q client → Q (f now pace client).client) :
    Keeps (World.Has k Q) (onClient c default f) := by
  rintro w ⟨client, there, holds⟩
  cases found : w.clients[c]? with
  | none =>
    rw [onClient_none found]
    exact ⟨client, there, holds⟩
  | some other =>
    rw [onClient_some found]
    by_cases same : c = k
    · subst same
      obtain rfl : client = other := Option.some.inj (there.symm.trans found)
      refine ⟨_, getElem?_afterStep there _, keeps _ _ _ ?_⟩
      exact lasting client (.work _ _) holds
    · refine ⟨client, ?_, holds⟩
      exact (List.getElem?_set_ne same).trans there

section

variable (lasting : Lasting Q)
include lasting

theorem keeps_progress (c : ClientId) : Keeps (World.Has k Q) (progress c) :=
  keeps_onClient lasting c () fun _ _ _ h => h

theorem keeps_sendEnvelope (c : ClientId) (e : Event) :
    Keeps (World.Has k Q) (sendEnvelope c (.ofItem (.ofEvent e))) :=
  keeps_onClient lasting c () fun now pace client h => lasting client (.event now pace e) h

theorem keeps_afterPrepare (c : ClientId) (client : Client) (r : Except EventDrop Event) :
    Keeps (World.Has k Q) (afterPrepare c client r) := by
  cases r with
  | error d => exact .pure _
  | ok e =>
    refine .bind (keeps_aside fun _ => rfl) fun now => ?_
    split
    · exact .pure _
    · exact .bind (keeps_sendEnvelope lasting c e) fun _ => .pure _

theorem keeps_process (c : ClientId) (client : Client) (scope : Option Scope) (hint : EventHint)
    (e : Event) (stack : Option Stacktrace) (traces : Traces) :
    Keeps (World.Has k Q)
      (client.process (passage c client scope hint) stack traces scope e) := by
  intro w has
  cases current : client.current? with
  | none =>
    rw [process_gone current]
    exact has
  | some p =>
    obtain ⟨r, fresh, -, processed⟩ :=
      process_eq (by rw [current]; rfl) c scope hint e stack traces w
    rw [processed]
    exact keeps_afterPrepare lasting c client r _ has

theorem keeps_processEvent (c : ClientId) (scope : Option Scope) (hint : EventHint) (e : Event) :
    Keeps (World.Has k Q) (processEvent c scope hint e) := by
  refine .bind (keeps_progress lasting c) fun _ => .bind (keeps_aside fun _ => rfl) fun client => ?_
  cases client with
  | none => exact .pure _
  | some client =>
    refine .bind .get fun w => .bind ?_ fun verdict => ?_
    · exact keeps_process lasting c client scope hint e w.stack w.traces
    · exact .bind (keeps_aside fun _ => rfl) fun _ => .pure _

theorem keeps_captureIn (h : HubId) (hint : EventHint) (e : Event) :
    Keeps (World.Has k Q) (captureIn h hint e) := by
  refine .bind keeps_top fun top => ?_
  cases top.client with
  | none => exact .pure _
  | some c =>
    refine .bind (keeps_processEvent lasting c _ hint e) fun id => ?_
    exact keeps_aside fun w => by
      cases nil : id.isNil <;> rfl

end

end Action

/-! ### Captures -/

/-- The ways to capture an event. -/
inductive Occasion where
  | event (hint : EventHint) (e : Event)
  | message (text : String) (level : Level)
  | error (chain : List Backtrace.ShownError)
  | checkIn (checkIn : CheckIn) (monitor : Option MonitorConfig)

/-- Everything short of closing that may reach a client through some hub. -/
inductive Usage where
  | event (t : Target) (o : Occasion)
  | log (t : Target) (l : Log)
  | metric (t : Target) (m : Metric)
  | finish (n : Node)
  | panic (h : HubId) (p : Payload)
  | flush (t : Target)

namespace Action

def captureOn (t : Target) : Occasion → Action Uuid
  | .event hint e => captureEvent t hint e
  | .message text level => captureMessage t text level
  | .error chain => captureError t chain
  | .checkIn checkIn monitor => captureCheckIn t checkIn monitor

def use : Usage → Action Unit
  | .event t o => discard (captureOn t o)
  | .log t l => captureLog t l
  | .metric t m => captureMetric t m
  | .finish n => finish n
  | .panic h p => discard (recover h p)
  | .flush t => discard (Action.flush t)

open Run Telemetry.Client

variable {k : ClientId} {Q : Client → Prop}

section

variable (lasting : Lasting Q)
include lasting

theorem keeps_occasion (t : Target) (o : Occasion) :
    Keeps (World.Has k Q) (captureOn t o) := by
  cases o with
  | event hint e => exact keeps_visit t _ fun h => keeps_captureIn lasting h hint e
  | message text level =>
    refine keeps_visit t _ fun h => .bind (keeps_aside fun _ => rfl) fun blank => ?_
    exact keeps_captureIn lasting h _ _
  | error chain =>
    refine keeps_visit t _ fun h => .bind keeps_top fun top => ?_
    split
    · exact .pure _
    · exact .bind (keeps_aside fun _ => rfl) fun blank => keeps_captureIn lasting h _ _
  | checkIn checkIn monitor =>
    refine keeps_visit t _ fun h => .bind (keeps_aside fun _ => rfl) fun blank => ?_
    exact .bind (keeps_captureIn lasting h _ _) fun id => .pure _

theorem keeps_flush (t : Target) : Keeps (World.Has k Q) (flush t) := by
  refine .bind (keeps_resolve t) fun h => .bind keeps_top fun top => ?_
  split
  · refine keeps_onClient lasting _ _ fun now pace client holds => ?_
    exact lasting client (.flush now pace) holds
  · exact .pure _

/-- A client meets whatever reaches it as operations of its own. -/
theorem keeps_use (x : Usage) : Keeps (World.Has k Q) (use x) := by
  cases x with
  | event t o => exact .bind (keeps_occasion lasting t o) fun _ => .pure _
  | log t l =>
    refine keeps_visit t _ fun h => .bind keeps_top fun top => ?_
    split
    · refine .bind .get fun w => keeps_onClient lasting _ _ fun now pace client holds => ?_
      exact lasting client (.log now pace _ _ l) holds
    · exact .pure _
  | metric t m =>
    refine keeps_visit t _ fun h => .bind keeps_top fun top => ?_
    split
    · refine .bind .get fun w => keeps_onClient lasting _ _ fun now pace client holds => ?_
      exact lasting client (.metric now pace _ _ m) holds
    · exact .pure _
  | finish n =>
    cases n with
    | span i => exact keeps_aside fun _ => rfl
    | transaction i =>
      refine .bind (keeps_aside fun _ => rfl) fun blank => .bind (keeps_aside fun _ => rfl) ?_
      intro sent
      split
      · refine .bind keeps_currentHub fun h => .bind keeps_top fun top => ?_
        exact .bind (keeps_processEvent lasting _ _ _ _) fun _ => .pure _
      · exact .pure _
  | panic h p =>
    refine .bind (.bind ?_ fun stack => ?_) fun _ => .pure _
    · exact keeps_aside fun _ => rfl
    · exact .bind (keeps_aside fun _ => rfl) fun blank => keeps_captureIn lasting h _ _
  | flush t => exact .bind (keeps_flush lasting t) fun _ => .pure _

end

/-- What becomes of a client when it is used is what some operations make of it. -/
theorem use_operations {w : World} {c : Client} (there : w.clients[k]? = some c) (x : Usage) :
    ∃ os : List Client.Operation,
      (use x w).2.clients[k]? = some (os.foldl (fun c o => o.run c) c) := by
  have lasting : Lasting fun c' =>
      ∃ os : List Client.Operation, os.foldl (fun c o => o.run c) c = c' := by
    rintro _ o ⟨os, rfl⟩
    exact ⟨os ++ [o], List.foldl_append ..⟩
  obtain ⟨c', there', os, rfl⟩ := keeps_use (k := k) lasting x w ⟨c, there, [], rfl⟩
  exact ⟨os, there'⟩

/-! ### After closing -/

/-- The client is used and closed in any way, and between that all the rest changes in any way. -/
inductive Later (k : ClientId) : World → World → Prop
  | rest (w : World) : Later k w w
  | use {w w' : World} (x : Usage) : Later k (Action.use x w).2 w' → Later k w w'
  | close {w w' : World} (c : ClientId) : Later k (closeClient c w).2 w' → Later k w w'
  | other {w w₁ w' : World} : w₁.clients[k]? = w.clients[k]? → Later k w₁ w' → Later k w w'

theorem Later.keeps {w w' : World} (later : Later k w w') (lasting : Lasting Q)
    (close : ∀ now pace c, Q c → Q (c.close now pace).client) (has : w.Has k Q) : w'.Has k Q := by
  induction later with
  | rest w => exact has
  | use x _ ih => exact ih (keeps_use lasting x _ has)
  | close c _ ih => exact ih (keeps_onClient lasting c true close _ has)
  | other same _ ih =>
    obtain ⟨c, there, holds⟩ := has
    exact ih ⟨c, same.trans there, holds⟩

def handedBy (k : ClientId) (w : World) : List Envelope := (w.clients[k]?.map Client.handed).getD []

/-- A client that is shut, and has handed just these envelopes to its transport. -/
def ShutWith (envelopes : List Envelope) (c : Client) : Prop := c.Shut ∧ c.handed = envelopes

theorem lasting_shutWith (envelopes : List Envelope) : Lasting (ShutWith envelopes) := by
  rintro c o ⟨shut, rfl⟩
  exact shut.run o

theorem close_shutWith (envelopes : List Envelope) (now : Instant) (pace : Emitter.Pace)
    (c : Client) (h : ShutWith envelopes c) : ShutWith envelopes (c.close now pace).client := by
  rw [(h.1.close pace).1]
  exact h

theorem shut_turned {c : Client} (shut : c.Shut) (w : World) : (turned c w).Shut :=
  (shut.run (.work w.fresh.now ((w.pace.sub w.calls).sub 0))).1

theorem isEnabled_of_shut {c : Client} (shut : c.Shut) {w : World}
    (there : w.clients[k]? = some c) : w.isEnabled k = false := by
  rw [World.isEnabled, there]
  show (c.options.dsn.isSome && c.current?.isSome) = false
  rw [shut.gone]
  exact Bool.and_false _

theorem captureIn_shut {c : Client} (shut : c.Shut) {w : World} (there : w.clients[k]? = some c)
    {h : HubId} (unlocked : (w.hub h).locked = false)
    (client : (w.hub h).layers.top.client = some k) (hint : EventHint) (e : Event) :
    ∃ w', captureIn h hint e w = (.done Uuid.nil, w') := by
  have entered : captureIn h hint e w = _ := bind_done (top_eq unlocked)
  rw [client] at entered
  have processed : processEvent k (some (w.hub h).layers.top.scope) hint e w = _ :=
    processEvent_some there _ hint e
  rw [process_gone (shut_turned shut w).gone] at processed
  exact ⟨_, entered.trans (bind_done processed)⟩

/-- The hub of a target uses a client, and nobody writes to it. -/
def Uses (k : ClientId) (t : Target) (w : World) : Prop :=
  ∃ h w', t.resolve w = (.done h, w') ∧ (w'.hub h).layers.top.client = some k ∧
    (w'.hub h).locked = false

theorem visit_inactive {w w' : World} {h : HubId}
    (resolved : Target.active.resolve w = (.done h, w'))
    (inactive : (!(w'.hub h).locked && (w'.hub h).layers.top.client.any w'.isEnabled) = false)
    (default : α) (f : HubId → Action α) :
    Target.active.visit default f w = (.done default, w') := by
  have looked : isActive h w' = (.done false, w') := congrArg (fun b => (Outcome.done b, w')) inactive
  have found : Target.active.find? w = (.done none, w') :=
    (bind_done resolved).trans (bind_done looked)
  exact bind_done found

/-- An event that is captured in a hub of a client that is shut has no identifier. -/
theorem captureOn_shut {c : Client} (shut : c.Shut) {w : World} (there : w.clients[k]? = some c)
    {t : Target} (uses : Uses k t w) (o : Occasion) :
    (captureOn t o w).1 = .done Uuid.nil := by
  obtain ⟨h, w', resolved, client, unlocked⟩ := uses
  cases t with
  | active =>
    -- looking for the hub may create one, and leaves the clients alone
    have still : w'.Has k (· = c) := by
      have kept := keeps_currentHub (Q := (· = c)) w ⟨c, there, rfl⟩
      rwa [show currentHub w = _ from resolved] at kept
    obtain ⟨_, there', rfl⟩ := still
    have inactive (f : HubId → Action Uuid) :
        (Target.active.visit Uuid.nil f w).1 = .done Uuid.nil :=
      congrArg Prod.fst (visit_inactive resolved
        (by rw [client, Option.any_some, isEnabled_of_shut shut there', Bool.and_false]) Uuid.nil f)
    cases o <;> exact inactive _
  | hub h =>
    cases resolved
    -- a blank event is drawn first, unless one is given
    let blank := (Event.fresh w.fresh).1
    let drawn := { w with fresh := (Event.fresh w.fresh).2 }
    cases o with
    | event hint e =>
      obtain ⟨_, captured⟩ := captureIn_shut shut there unlocked client hint e
      exact congrArg Prod.fst captured
    | message text level =>
      obtain ⟨_, captured⟩ := captureIn_shut (w := drawn) shut there unlocked client .none
        { blank with message := some text, level }
      exact congrArg Prod.fst captured
    | error chain =>
      obtain ⟨_, captured⟩ := captureIn_shut (w := drawn) shut there unlocked client
        ⟨chain.head?.map Backtrace.ShownError.display, none⟩ (Backtrace.errorEvent blank chain)
      have entered : captureOn (.hub h) (.error chain) w =
          (top h >>= fun top => do
            if top.client.isNone then return Uuid.nil
            captureIn h ⟨chain.head?.map Backtrace.ShownError.display, none⟩
              (Backtrace.errorEvent (← blankEvent) chain) : Action Uuid) w := rfl
      have topped := entered.trans (bind_done (top_eq unlocked))
      rw [client] at topped
      exact congrArg Prod.fst (topped.trans captured)
    | checkIn checkIn monitor =>
      obtain ⟨_, captured⟩ := captureIn_shut (w := drawn) shut there unlocked client .none
        { blank with
          kind := .checkIn, level := .info
          checkIn := some { checkIn with monitorConfig := monitor.or checkIn.monitorConfig } }
      exact congrArg Prod.fst (bind_done captured)

theorem closeClient_eq {c : Client} {w : World} (there : w.clients[k]? = some c) :
    let r := (turned c w).close w.fresh.now ((w.pace.sub w.calls).sub 1)
    closeClient k w = (.done r.result, afterStep k r w) :=
  onClient_some there true Client.close

/-- Closing a client again lets its workers go on and does nothing else. -/
theorem closeClient_shut {c : Client} (shut : c.Shut) {w : World}
    (there : w.clients[k]? = some c) :
    (closeClient k w).1 = .done true ∧
      (closeClient k w).2.clients = (progress k w).2.clients := by
  obtain ⟨same, done⟩ := (shut_turned shut w).close ((w.pace.sub w.calls).sub 1)
  have closed := closeClient_eq there
  have progressed : progress k w = (.done (), afterTurn k c w) := onClient_some there () _
  rw [closed, progressed]
  refine ⟨congrArg Outcome.done done, ?_⟩
  show w.clients.set k _ = w.clients.set k _
  rw [same]

theorem accepted_turn (t : Emitter.Turn) (e : Option (Emitter α)) :
    (Part.turn t).accepted e = [] := by
  cases e <;> rfl

theorem holds_turned {a : Account} (h : a.Holds) (w : World) :
    ∃ x, (turned a.client w).Holds a.logs a.metrics x := by
  obtain ⟨p, h⟩ := h
  have run := h.run (.work w.fresh.now ((w.pace.sub w.calls).sub 0))
  have logs := accepted_turn (((w.pace.sub w.calls).sub 0).sub 0).turn a.client.logs
  have metrics := accepted_turn (((w.pace.sub w.calls).sub 0).sub 2).turn a.client.metrics
  simp only [Client.Operation.logs, Client.Operation.metrics, logs, metrics, List.append_nil] at run
  exact ⟨_, run⟩

/-- A client is closed. If it has a transport and this succeeds, everything its emitters had accepted
was handed to the transport before that was shut down. And whatever comes of it and whatever happens
later, nothing more is handed over, the client is not enabled, what is captured has no identifier,
and closing the client again does nothing. -/
theorem close_delivers_and_silences [PatternLanguage] {o : ClientOptions} {c : Client}
    {ds : List Diagnostic} (made : create o = .ok (c, ds)) (os : List Client.Operation)
    {w : World} (there : w.clients[k]? = some (Account.after c os).client) :
    let a := Account.after c os
    let r := closeClient k w
    (c.transport.isSome = true → r.1 = .done true →
      ∃ (p : Transport) (now : Instant) (pace : Emitter.Pace),
        r.2.clients[k]?.bind Client.transport = some (p.shutdown now pace).2.2 ∧
          (batchesIn Item.logs? p.offered).flatten = a.logs ∧
          (batchesIn Item.metrics? p.offered).flatten = a.metrics) ∧
    ∀ w', Later k r.2 w' →
      handedBy k w' = handedBy k r.2 ∧ w'.isEnabled k = false ∧
        (∀ t o, Uses k t w' → (captureOn t o w').1 = .done Uuid.nil) ∧
        (closeClient k w').1 = .done true ∧
        (closeClient k w').2.clients = (progress k w').2.clients := by
  intro a r
  let step := (turned a.client w).close w.fresh.now ((w.pace.sub w.calls).sub 1)
  have closed : r = (.done step.result, afterStep k step w) := closeClient_eq there
  have client : r.2.clients[k]? = some step.client := by
    rw [closed]
    exact getElem?_afterStep there step
  refine ⟨fun attached done => ?_, fun w' later => ?_⟩
  · obtain ⟨x, holds⟩ := holds_turned (Account.holds_after (holds_create made attached) os) w
    have result : step.result = true := by
      rw [closed] at done
      exact Outcome.done.inj done
    obtain ⟨p, transport, logs, metrics⟩ := holds.close result
    refine ⟨p, w.fresh.now, ((w.pace.sub w.calls).sub 1).sub 2, ?_, logs, metrics⟩
    rw [client]
    exact transport
  · have shut := shut_close w.fresh.now ((w.pace.sub w.calls).sub 1) (turned a.client w)
    obtain ⟨c', there', shut', same⟩ :=
      later.keeps (lasting_shutWith _) (close_shutWith _) ⟨_, client, shut, rfl⟩
    refine ⟨?_, isEnabled_of_shut shut' there', fun t o uses => captureOn_shut shut' there' uses o,
      closeClient_shut shut' there'⟩
    rw [handedBy, there', handedBy, client]
    exact same

/-- A log that is handed over because its client is closed, and a hub whose captures fail then. -/
theorem close_delivers_and_silences_log :
    let hello := Client.Operation.log .epoch asleep .empty default (.make .info "hello" .epoch)
    let a := Account.after (plain (logging (some (.collecting fun _ => false)))) [hello]
    let w := World.single a.client busy
    let r := closeClient 0 w
    r.1 = .done true ∧ a.logs.map Log.body = ["hello"] ∧ Uses 0 (.hub 0) r.2 ∧
      (∃ (p : Transport) (now : Instant) (pace : Emitter.Pace),
        r.2.clients[0]?.bind Client.transport = some (p.shutdown now pace).2.2 ∧
          (batchesIn Item.logs? p.offered).flatten = a.logs ∧
          (batchesIn Item.metrics? p.offered).flatten = a.metrics) ∧
      ∀ w', Later 0 r.2 w' → handedBy 0 w' = handedBy 0 r.2 ∧
        (Uses 0 (.hub 0) w' →
          (captureOn (.hub 0) (.message "late" .error) w').1 = .done Uuid.nil) := by
  intro hello a w r
  let := PatternLanguage.words
  have closing := close_delivers_and_silences
    (create_logging (some (.collecting fun _ => false))) [hello] (w := w) (k := 0) rfl
  have done : r.1 = .done true := rfl
  have uses : Uses 0 (.hub 0) r.2 := ⟨0, r.2, rfl, rfl, rfl⟩
  refine ⟨done, rfl, uses, closing.1 rfl done, fun w' later => ?_⟩
  obtain ⟨handed, -, captures, -⟩ := closing.2 w' later
  exact ⟨handed, captures (.hub 0) (.message "late" .error)⟩

/-- Without a transport, closing succeeds although the log is handed to nobody. -/
theorem close_without_transport :
    let hello := Client.Operation.log .epoch asleep .empty default (.make .info "hello" .epoch)
    let a := Account.after (plain (logging none)) [hello]
    let r := closeClient 0 (World.single a.client busy)
    (∃ ds, @create .words { logging none with integrations := [] } =
        .ok (plain (logging none), ds)) ∧
      a.logs.map Log.body = ["hello"] ∧ r.1 = .done true ∧
      (r.2.clients[0]?.bind Client.transport).isNone = true :=
  ⟨⟨_, @create_logging .words none⟩, rfl, rfl, rfl⟩

end Action

end Telemetry
