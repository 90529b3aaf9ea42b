import Telemetry.Proofs.Client.Filters
import Telemetry.Proofs.Hub.CheckIn

/-! Check-ins in two worlds whose clients differ in their filters. A capture ends in the same way in
both, and every transport gets the same. -/

namespace Telemetry

/-- A world whose clients have other filters. -/
def World.refilter (filters : ClientId → Filters) (w : World) : World :=
  { w with clients := w.clients.mapIdx fun c client => client.refilter (filters c) }

namespace World

variable (filters : ClientId → Filters) (w : World)

theorem getElem?_refilter (c : ClientId) : (w.refilter filters).clients[c]? =
    w.clients[c]?.map (Client.refilter (filters c)) := List.getElem?_mapIdx

theorem isEnabled_refilter : (w.refilter filters).isEnabled = w.isEnabled := by
  funext c
  rw [isEnabled, getElem?_refilter, Option.any_map]
  rfl

theorem transports_refilter :
    (w.refilter filters).clients.map Client.transport = w.clients.map Client.transport := by
  refine List.ext_getElem? fun c => ?_
  rw [List.getElem?_map, getElem?_refilter, Option.map_map, List.getElem?_map]
  rfl

end World

namespace Action

open Client

variable {α β : Type} {w : World}

theorem afterStep_refilter (c : ClientId) (r : Client.Step α) (w : World)
    (filters : ClientId → Filters) :
    afterStep c { r with client := r.client.refilter (filters c) } (w.refilter filters) =
      (afterStep c r w).refilter filters := by
  have same : (w.clients.mapIdx fun c client => client.refilter (filters c)).set c
      (r.client.refilter (filters c)) =
      (w.clients.set c r.client).mapIdx fun c client => client.refilter (filters c) := by
    refine List.ext_getElem? fun i => ?_
    simp only [List.getElem?_set, List.getElem?_mapIdx, List.length_mapIdx]
    split
    · next eq =>
      subst eq
      split <;> rfl
    · rfl
  simp only [afterStep, World.refilter, same]

/-- A call that ends in the same way, and leaves the same behind, whatever filters the clients
have. -/
def Indifferent (x : Action α) (w : World) : Prop :=
  ∀ filters, x (w.refilter filters) = ((x w).1, (x w).2.refilter filters)

namespace Indifferent

theorem pure (a : α) (w : World) : Indifferent (Pure.pure a) w := fun _ => rfl

theorem bind {x : Action α} {f : α → Action β} (first : Indifferent x w)
    (second : ∀ a w', x w = (.done a, w') → Indifferent (f a) w') : Indifferent (x >>= f) w := by
  intro filters
  show Run.bind x f (w.refilter filters) = ((Run.bind x f w).1, (Run.bind x f w).2.refilter filters)
  unfold Run.bind
  rw [first filters]
  rcases ran : x w with ⟨_ | _ | _, w'⟩
  · exact second _ w' ran filters
  · rfl
  · rfl

theorem get {f : World → Action α} (blind : ∀ filters, f (w.refilter filters) = f w)
    (next : Indifferent (f w) w) : Indifferent (Run.get >>= f) w := by
  intro filters
  show f (w.refilter filters) (w.refilter filters) = ((f w w).1, (f w w).2.refilter filters)
  rw [blind]
  exact next filters

theorem onClient (c : ClientId) (default : α) {f : Instant → Emitter.Pace → Client → Client.Step α}
    (same : ∀ x now pace client, f now pace (client.refilter x) =
      { f now pace client with client := (f now pace client).client.refilter x }) (w : World) :
    Indifferent (Action.onClient c default f) w := by
  intro filters
  have found := w.getElem?_refilter filters c
  cases there : w.clients[c]? with
  | none =>
    rw [there] at found
    rw [onClient_none there, onClient_none found]
    rfl
  | some client =>
    rw [there] at found
    rw [onClient_some there, onClient_some found]
    simp only [turn_refilter, same, afterStep_refilter]
    rfl

theorem draw (f : Fresh → α × Fresh) (w : World) : Indifferent (Action.draw f) w := fun _ => rfl

theorem now (w : World) : Indifferent Action.now w := fun _ => rfl

theorem tell (ds : List Diagnostic) (w : World) : Indifferent (Action.tell ds) w := fun _ => rfl

theorem editHub (h : HubId) (f : Hub → Hub) (w : World) :
    Indifferent (Run.modify (World.editHub h f)) w := fun _ => rfl

theorem layers (h : HubId) (w : World) : Indifferent (Action.layers h) w := by
  refine get (fun _ => rfl) ?_
  dsimp only
  split
  · exact fun _ => rfl
  · exact pure _ w

theorem top (h : HubId) (w : World) : Indifferent (Action.top h) w :=
  bind (layers h w) fun a w' _ => pure a.top w'

theorem sendEnvelope (c : ClientId) (e : Envelope) (w : World) :
    Indifferent (Action.sendEnvelope c e) w :=
  onClient c () (fun x now pace client => send_refilter x now pace e client) w

theorem currentHub (w : World) : Indifferent Action.currentHub w := by
  refine bind (fun _ => rfl) fun thread w' _ => ?_
  cases thread.bound with
  | some h => exact pure h w'
  | none =>
    refine get (fun _ => rfl) ?_
    split
    · exact pure w'.main w'
    split
    · exact pure _ w'
    · refine bind ?_ fun h w₁ _ => fun _ => rfl
      exact bind (top w'.main w') fun l w₁ _ => fun _ => rfl

theorem isActive (h : HubId) (w : World) : Indifferent (Action.isActive h) w :=
  get (fun filters => by rw [World.isEnabled_refilter]; rfl) (pure _ w)

theorem find? (t : Target) (w : World) : Indifferent t.find? w := by
  cases t with
  | hub h => exact pure (some h) w
  | active =>
    refine bind (currentHub w) fun h w' _ => bind (isActive h w') fun active w'' _ => ?_
    split
    · exact pure (some h) w''
    · exact pure none w''

/-! ### Check-ins -/

theorem afterPrepare (c : ClientId) (client : Client) (r : Except EventDrop Event) (w : World) :
    Indifferent (Action.afterPrepare c client r) w := by
  cases r with
  | error d => exact pure _ w
  | ok e =>
    refine bind (now w) fun now w' _ => ?_
    split
    · exact pure _ w'
    · exact bind (sendEnvelope c _ w') fun _ w₁ _ => pure _ w₁

end Indifferent

variable {c : ClientId} {client : Client} {scope : Scope} {e : Event}

theorem process_checkIn (leaves : LeavesCheckIns scope client) (hint : EventHint)
    (kind : e.kind = .checkIn) (named : e.id.isNil = false) (stack : Option Stacktrace)
    (traces : Traces) :
    client.process (passage c client (some scope) hint) stack traces (some scope) e =
      if client.current?.isNone then pure (.noTransport e.id)
      else afterPrepare c client
        (client.passOn scope (client.fillIn stack traces (some scope) e)) := by
  have prepared := prepare_checkIn leaves (k := passage c client (some scope) hint) rfl rfl kind
    named stack traces
  unfold Client.process
  rw [prepared]
  split
  · rfl
  · cases client.passOn scope (client.fillIn stack traces (some scope) e) <;> rfl

theorem process_refilter (leaves : LeavesCheckIns scope client) (hint : EventHint)
    (kind : e.kind = .checkIn) (named : e.id.isNil = false) (stack : Option Stacktrace)
    (traces : Traces) (x : Filters) :
    (client.refilter x).process (passage c (client.refilter x) (some scope) hint) stack traces
        (some scope) e =
      client.process (passage c client (some scope) hint) stack traces (some scope) e := by
  rw [process_checkIn leaves hint kind named, process_checkIn (leaves.refilter x) hint kind named,
    fillIn_refilter kind, passOn_refilter leaves.deaf, current?_refilter]
  cases client.passOn scope (client.fillIn stack traces (some scope) e) <;> rfl

theorem processEvent_indifferent
    (leaves : ∀ client, w.clients[c]? = some client → LeavesCheckIns scope client)
    (hint : EventHint) (kind : e.kind = .checkIn) (named : e.id.isNil = false) :
    Indifferent (processEvent c (some scope) hint e) w := by
  intro filters
  have found := w.getElem?_refilter filters c
  cases there : w.clients[c]? with
  | none =>
    rw [there] at found
    rw [processEvent_none there, processEvent_none found]
    rfl
  | some client =>
    rw [there] at found
    -- the workers go on first, which reads no filter; the event's way starts from what they leave
    let d := turned client w
    have same : client.SameFrame d :=
      sameFrame_run client (.work w.fresh.now ((w.pace.sub w.calls).sub 0))
    have leaves : LeavesCheckIns scope d := (leaves client there).sameFrame same
    have other : turned (client.refilter (filters c)) (w.refilter filters) =
        d.refilter (filters c) := turn_refilter _ _ _ client
    have turned : afterTurn c (client.refilter (filters c)) (w.refilter filters) =
        (afterTurn c client w).refilter filters := by
      rw [afterTurn, other]
      exact afterStep_refilter c ⟨(), d, [], false⟩ w filters
    rw [processEvent_some there, processEvent_some found, other, turned,
      process_refilter leaves hint kind named]
    refine Indifferent.bind ?_ (fun verdict w' _ => ?_) filters
    · rw [process_checkIn leaves hint kind named]
      split
      · exact .pure _ _
      · exact .afterPrepare c d _ _
    · exact .bind (.tell verdict.diagnostics w') fun _ w₁ _ => .pure _ w₁

/-- Whatever a check-in meets that is captured in a hub leaves it a check-in, and does not depend on
filters. -/
def CheckInsStay (h : HubId) (w : World) : Prop :=
  ∀ c client, (w.hub h).layers.top.client = some c → w.clients[c]? = some client →
    LeavesCheckIns (w.hub h).layers.top.scope client

theorem captureIn_indifferent {h : HubId} (stay : CheckInsStay h w) (hint : EventHint)
    (kind : e.kind = .checkIn) (named : e.id.isNil = false) :
    Indifferent (captureIn h hint e) w := by
  refine .bind (.top h w) fun l w' looked => ?_
  cases locked : (w.hub h).locked with
  | true => cases (top_locked locked).symm.trans looked
  | false =>
    cases (top_eq locked).symm.trans looked
    cases bound : (w.hub h).layers.top.client with
    | none => exact .pure _ w
    | some c =>
      refine .bind (processEvent_indifferent (stay c · bound) hint kind named) fun id w₁ _ => ?_
      dsimp only
      split
      · exact .bind (.editHub h _ w₁) fun _ w₂ _ => .pure id w₂
      · exact .pure id w₁

/-- A check-in is captured in two worlds whose clients have different filters. Both captures end in
the same way, with the same identifier, and leave the same in every transport; nothing but the
filters is different afterwards. -/
theorem captureCheckIn_refilter {t : Target}
    (stay : ∀ h w', t.find? w = (.done (some h), w') → CheckInsStay h w')
    (filters : ClientId → Filters) (checkIn : CheckIn) (monitor : Option MonitorConfig) :
    let r := captureCheckIn t checkIn monitor w
    let r' := captureCheckIn t checkIn monitor (w.refilter filters)
    r'.1 = r.1 ∧ r'.2.clients.map Client.transport = r.2.clients.map Client.transport ∧
      r'.2 = r.2.refilter filters := by
  have same : Indifferent (captureCheckIn t checkIn monitor) w := by
    refine .bind (.find? t w) fun found w' asked => ?_
    cases found with
    | none => exact .pure _ w'
    | some h =>
      have stay : CheckInsStay h w' := stay h w' asked
      refine .bind (.draw Event.fresh w') fun blank w₁ drawn => ?_
      cases drawn
      refine .bind (captureIn_indifferent ?_ .none rfl ?_) fun id w₂ _ => .pure _ w₂
      · exact stay
      · exact Uuid.isNil_random _
  intro r r'
  have ended : r' = (r.1, r.2.refilter filters) := same filters
  rw [ended]
  exact ⟨rfl, r.2.transports_refilter filters, rfl⟩

/-- A world whose client has an integration, and whose hub has a processor. -/
def tagging : World :=
  let named : Integration :=
    ⟨.custom "named", "named", id, fun s e => some { e with serverName := s.serverName }⟩
  let client := plain (logging (some (.collecting fun _ => false)))
  { World.single { client with integrations := [named] } asleep with
    hubs :=
      [Hub.new (some 0)
        { (default : Scope) with processors := [fun e => some { e with level := .fatal }] }]
    thread := { ThreadState.new with ownsMain := true } }

/-- Filters that keep every error and every transaction back. -/
def strict : Filters :=
  let all : IgnorePattern := ⟨"", fun _ => true⟩
  { sampleRate := 0, tracesSampleRate := 1, tracesSampler := some fun _ => 0
    ignoreErrors := [""], ignoreTransactions := [""], patterns := ⟨[all], [all]⟩
    beforeSend := some fun _ _ => none, beforeSendTransaction := some fun _ _ => none
    attachStacktrace := true }

theorem captureCheckIn_refilter_strict :
    let r := captureCheckIn .active nightly none tagging
    let r' := captureCheckIn .active nightly none (tagging.refilter fun _ => strict)
    (∀ h w', Target.active.find? tagging = (.done (some h), w') → CheckInsStay h w') ∧
      r'.1 = .done nightly.id ∧
      r'.2.clients.map Client.transport = r.2.clients.map Client.transport ∧
      r.2.clients.map (fun c => c.transport.map fun t => t.offered.map Envelope.categories) =
        [some [[.monitor]]] := by
  intro r r'
  have stay (h : HubId) (w : World) (found : Target.active.find? tagging = (.done (some h), w)) :
      CheckInsStay h w := by
    have main : Target.active.find? tagging = (.done (some 0), tagging) := rfl
    cases main.symm.trans found
    rintro c _ ⟨⟩ ⟨⟩
    refine ⟨fun f hf e e' kind left => ?_, fun i hi e e' kind left => ?_, fun i hi x s e => ?_⟩
    · cases List.mem_singleton.mp hf
      cases left
      exact kind
    · cases List.mem_singleton.mp hi
      cases left
      exact kind
    · cases List.mem_singleton.mp hi
      rfl
  have sent : r.1 = .done nightly.id := rfl
  obtain ⟨ended, same, -⟩ := captureCheckIn_refilter stay (fun _ => strict) nightly none
  exact ⟨stay, ended.trans sent, same, rfl⟩

end Action

end Telemetry
