import Telemetry.Proofs.Client.Filling
import Telemetry.Proofs.Client.Frame
import Telemetry.Proofs.Client.Route
import Telemetry.Proofs.Hub.Identifier
import Telemetry.Proofs.Text.Hex

/-! Check-ins on their way as events. As long as no callback takes the check-in out of the event that
stands for it, or the identifier from either, a capture sends that check-in or nothing. A callback
that takes the check-in out turns it into an error. -/

namespace Telemetry

namespace Event

/-- An event on the way of the check-in with an identifier. -/
structure StandsFor (id : Uuid) (e : Event) : Prop where
  kind : e.kind = .checkIn
  checkIn : e.checkIn.map CheckIn.id = some id
  named : e.id.isNil = false

/-- A callback that leaves a check-in where it is, or drops it. -/
def Loyal (f : Event → Option Event) : Prop :=
  ∀ id e e', e.StandsFor id → f e = some e' → e'.StandsFor id

theorem StandsFor.ofEvent {id : Uuid} {e : Event} (h : e.StandsFor id) :
    ∃ sent : CheckIn, sent.id = id ∧ Item.ofEvent e = .checkIn sent := by
  obtain ⟨sent, there, same⟩ := Option.map_eq_some_iff.mp h.checkIn
  exact ⟨sent, same, by rw [Item.ofEvent, h.kind, there]⟩

theorem StandsFor.sameCore {id : Uuid} {e e' : Event} (h : e.StandsFor id) (same : SameCore e e') :
    e'.StandsFor id :=
  ⟨same.kind.trans h.kind, by rw [same.checkIn, h.checkIn], by rw [same.id, h.named]⟩

end Event

namespace Action

open Run Event

variable {c : ClientId} {client : Client} {w : World} {id : Uuid}

/-- The callbacks that an event meets in a hub leave check-ins where they are. -/
structure LoyalHooks (h : HubId) (w : World) : Prop where
  processors : ∀ f ∈ (w.hub h).layers.top.scope.processors, Loyal f
  integrations : ∀ c client, (w.hub h).layers.top.client = some c → w.clients[c]? = some client →
    ∀ i ∈ client.integrations, Loyal (i.process client.options.toSettings)

/-- One event, taken for two. -/
def Standing (id : Uuid) (e e' : Event) : Prop := e = e' ∧ e.StandsFor id

theorem match_loyal {fs : List (Event → Option Event)} (loyal : ∀ f ∈ fs, Loyal f)
    (drop : (Event → Option Event) → Uuid → EventDrop) :
    List.Forall₂ (Stage.Match (Eq : World → World → Prop) (Standing id))
      (fs.map fun f => Stage.ofFunction (drop f) f) (fs.map fun f => .ofFunction (drop f) f) := by
  rw [List.forall₂_map_left_iff, List.forall₂_map_right_iff]
  refine List.forall₂_same.mpr fun f hf => Stage.match_ofFunction ?_ _ _
  rintro e _ ⟨rfl, stands⟩
  cases asked : f e with
  | none => exact .none
  | some e' => exact .some ⟨rfl, loyal f hf id e e' stands asked⟩

theorem route_checkIn (id : Uuid) (scope : Scope)
    (processors : ∀ f ∈ scope.processors, Loyal f)
    (integrations : ∀ i ∈ client.integrations, Loyal (i.process client.options.toSettings))
    (hint : EventHint) (stack : Option Stacktrace) (traces : Traces) :
    Client.Route (Eq : World → World → Prop) (Standing id)
      (passage c client (some scope) hint) (passage c client (some scope) hint)
      (client.fillIn stack traces (some scope)) (client.fillIn stack traces (some scope))
      client client where
  identified := by
    rintro e _ ⟨rfl, stands⟩
    unfold Client.identify
    simp only [stands.named]
    exact .pure ⟨rfl, stands⟩
  filled := by
    rintro e _ ⟨rfl, stands⟩
    exact ⟨rfl, stands.sameCore (sameCore_fillIn traces e client stack (some scope))⟩
  processors := match_loyal processors fun _ => .processor
  integrations := by
    rw [passage, Client.stages, List.forall₂_map_left_iff, List.forall₂_map_right_iff]
    refine List.forall₂_same.mpr fun i hi => Stage.match_ofFunction ?_ _ _
    rintro e _ ⟨rfl, stands⟩
    cases asked : i.process client.options.toSettings e with
    | none => exact .none
    | some e' => exact .some ⟨rfl, integrations i hi id e e' stands asked⟩
  ignored := by
    rintro e _ ⟨rfl, -⟩
    rfl
  sampled := by
    rintro e _ ⟨rfl, stands⟩
    unfold Client.sample
    simp only [stands.kind]
    exact .pure (.ok trivial)
  last := by
    rintro e _ ⟨rfl, stands⟩
    rw [stands.kind]
    exact .nil

theorem Prepared.standsFor {scope : Scope} {hint : EventHint} {e e' : Event}
    (prepared : Prepared c client (some scope) hint e w e') (stands : e.StandsFor id)
    (processors : ∀ f ∈ scope.processors, Loyal f)
    (integrations : ∀ i ∈ client.integrations, Loyal (i.process client.options.toSettings)) :
    e'.StandsFor id := by
  obtain ⟨w', made⟩ := prepared
  have same : client.SameFrame (turned client w) :=
    Client.sameFrame_run client (.work w.fresh.now ((w.pace.sub w.calls).sub 0))
  rw [same.integrations, same.options] at integrations
  have route := route_checkIn (c := c) id scope processors integrations hint w.stack w.traces
  have ended := route.prepare ⟨rfl, stands⟩ _ _ (rfl : afterTurn c client w = _)
  rw [made] at ended
  cases ended with
  | done passed => cases passed with
    | ok left => exact left.2

/-- One envelope was handed over, and its one item is a check-in with an identifier. -/
def Delivered (h : HubId) (id : Uuid) (w w' : World) : Prop :=
  ∃ c client sent, (w.hub h).layers.top.client = some c ∧ w.clients[c]? = some client ∧
    sent.id = id ∧ w'.captured = w.captured.set c (client.captured ++ [.ofItem (.checkIn sent)])

theorem Sent.delivered {h : HubId} {hint : EventHint} {e e' : Event} {w' : World}
    (sent : Sent h hint e w w' e') (stands : e.StandsFor id) (loyal : LoyalHooks h w) :
    Delivered h id w w' ∧ e'.id.isNil = false := by
  obtain ⟨c, client, used, there, prepared, captured⟩ := sent
  have left := prepared.standsFor stands loyal.processors (loyal.integrations c client used there)
  obtain ⟨sent, same, item⟩ := left.ofEvent
  rw [item] at captured
  exact ⟨⟨c, client, sent, used, there, same, captured⟩, left.named⟩

/-- A check-in that is captured while all callbacks are loyal. Either nothing is handed over, and nil
is returned; or one check-in is, under the identifier that is returned. A capture that panics has
handed its check-in over, and only one in a hub that is being written to waits for ever. -/
theorem captureCheckIn_delivers {h : HubId} (loyal : LoyalHooks h w) (checkIn : CheckIn)
    (monitor : Option MonitorConfig) :
    let r := captureCheckIn (.hub h) checkIn monitor w
    (∀ id, r.1 = .done id → (id = Uuid.nil ∧ r.2.captured = w.captured) ∨
      (id = checkIn.id ∧ Delivered h checkIn.id w r.2)) ∧
    (∀ p, r.1 = .panicked p → Delivered h checkIn.id w r.2) ∧
    (r.1 = .blocked → (w.hub h).locked = true) := by
  intro r
  let e : Event :=
    { (Event.fresh w.fresh).1 with
      kind := .checkIn, level := .info
      checkIn := some { checkIn with monitorConfig := monitor.or checkIn.monitorConfig } }
  let drawn : World := { w with fresh := (Event.fresh w.fresh).2 }
  have stands : e.StandsFor checkIn.id := ⟨rfl, rfl, Uuid.isNil_random _⟩
  have entered : r = (captureIn h .none e >>= fun id =>
      Pure.pure (if id.isNil then Uuid.nil else checkIn.id)) drawn := rfl
  obtain ⟨out, w', captured, ends⟩ := captureIn_cases h .none e drawn
  rcases ends with ⟨rfl, locked, rfl⟩ | ⟨rfl, same, -⟩ | ⟨e', sent, ended⟩
  · rw [entered, bind_blocked captured]
    exact ⟨nofun, nofun, fun _ => locked⟩
  · rw [entered, bind_done captured]
    refine ⟨?_, nofun, nofun⟩
    rintro _ ⟨⟩
    exact .inl ⟨rfl, same⟩
  · obtain ⟨delivered, named⟩ :=
      sent.delivered stands ⟨loyal.processors, loyal.integrations⟩
    obtain ⟨rfl, -⟩ | ⟨rfl, -⟩ := ended
    · rw [entered, bind_done captured, named]
      refine ⟨?_, nofun, nofun⟩
      rintro _ ⟨⟩
      exact .inr ⟨rfl, delivered⟩
    · rw [entered, bind_panicked captured]
      exact ⟨nofun, fun _ _ => delivered, nofun⟩

/-- A client that keeps no error, with an integration that may take check-ins out. -/
def guarding (clears : Bool) : Client :=
  { Client.plain
      { Client.logging (some (.collecting fun _ => false)) with
        sampleRate := 0, beforeSend := some fun _ _ => none } with
    integrations :=
      [⟨.custom "first", "first", fun s => s, fun _ e =>
        some (if clears then { e with checkIn := none } else e)⟩] }

def nightly : CheckIn := ⟨Uuid.random 7, "nightly", .ok, none, none, none⟩

theorem loyalHooks_guarding : LoyalHooks 0 (World.single (guarding false) Client.asleep) where
  processors _ hf := nomatch hf
  integrations c client used there i hi := by
    cases used
    cases there
    obtain rfl := List.mem_singleton.mp hi
    rintro id e _ stands ⟨⟩
    exact stands

theorem captureCheckIn_delivers_nightly :
    let w := World.single (guarding false) Client.asleep
    let r := captureCheckIn (.hub 0) nightly none w
    r.1 = .done nightly.id ∧ nightly.id.isNil = false ∧ Delivered 0 nightly.id w r.2 := by
  refine ⟨rfl, rfl, ?_⟩
  obtain ⟨nil, -⟩ | ⟨-, delivered⟩ :=
    (captureCheckIn_delivers loyalHooks_guarding nightly none).1 nightly.id rfl
  · exact absurd nil (by decide)
  · exact delivered

/-- An integration takes the check-in out: an error is handed over, which was neither sampled nor
shown to the last callback, and the identifier of the check-in is returned. -/
theorem captureCheckIn_sends_error :
    let w := World.single (guarding true) Client.asleep
    let r := captureCheckIn (.hub 0) nightly none w
    (guarding true).options.sampleRate = 0 ∧
      (∀ f ∈ (guarding true).options.beforeSend, ∀ e hint, (f e hint).isNone) ∧
      r.1 = .done nightly.id ∧ nightly.id.isNil = false ∧
      r.2.captured.map (List.map Envelope.categories) = [[[.error]]] :=
  ⟨rfl, by rintro _ ⟨⟩ e hint; rfl, rfl, rfl, rfl⟩

end Action

end Telemetry
