import Telemetry.Hub.Tracing
import Telemetry.Recover
import Telemetry.Run

/-! What calls of the library do to the world. Whatever is captured in a hub, the clients change only
by what the call does with the client of that hub, and the way of an event up to the transport
changes nothing but the random numbers. -/

namespace Telemetry

namespace Action

variable {α β ε : Type}

/-! ### The way of an event -/

/-- A computation that ends with a result and only draws numbers. -/
def Calm (x : Action α) : Prop := ∀ w, ∃ a fresh, x w = (.done a, { w with fresh })

namespace Calm

theorem pure (a : α) : Calm (Pure.pure a : Action α) := fun w => ⟨a, w.fresh, rfl⟩

theorem draw (f : Fresh → α × Fresh) : Calm (Action.draw f) := fun w =>
  ⟨(f w.fresh).1, (f w.fresh).2, rfl⟩

theorem bind {x : Action α} {f : α → Action β} (hx : Calm x) (hf : ∀ a, Calm (f a)) :
    Calm (x >>= f) := by
  intro w
  obtain ⟨a, fresh, first⟩ := hx w
  obtain ⟨b, fresh', second⟩ := hf a { w with fresh }
  refine ⟨b, fresh', ?_⟩
  show Run.bind x f w = _
  rw [Run.bind, first]
  exact second

theorem ok (a : α) : Calm (Pure.pure a : ExceptT ε Action α).run := pure (Except.ok a)

theorem error (d : ε) : Calm (throw d : ExceptT ε Action α).run := pure (Except.error d)

theorem andThen {x : ExceptT ε Action α} {f : α → ExceptT ε Action β} (hx : Calm x.run)
    (hf : ∀ a, Calm (f a).run) : Calm (x >>= f).run :=
  bind hx fun
    | .ok a => hf a
    | .error d => error d

theorem lift {x : Action α} (hx : Calm x) : Calm (liftM x : ExceptT ε Action α).run :=
  bind hx fun a => ok a

theorem askAll {fs : List (Stage Action)} (hfs : ∀ f ∈ fs, ∀ e, Calm (f.ask e)) (e : Event) :
    Calm (Stage.askAll fs e).run := by
  induction fs generalizing e with
  | nil => exact ok e
  | cons f fs ih =>
    refine andThen (lift (hfs f List.mem_cons_self e)) fun answer => ?_
    cases answer with
    | some e' => exact ih (fun g hg => hfs g (List.mem_cons_of_mem _ hg)) e'
    | none => exact error _

end Calm

theorem calm_sample (rate : Float32) {unit : Action Float32} (h : Calm unit) (e : Event) :
    Calm (Client.sample rate unit e).run := by
  unfold Client.sample
  split
  · split
    · exact Calm.error _
    · exact Calm.ok ()
  · refine Calm.andThen (Calm.lift ?_) fun kept => ?_
    · unfold Client.sampleWith
      split
      · exact Calm.pure _
      · exact Calm.bind h fun _ => Calm.pure _
    · split
      · exact Calm.ok ()
      · exact Calm.error _
  · exact Calm.ok ()

/-- A passage on which an event changes nothing but the random numbers. -/
structure CalmPassage (k : Client.Passage Action) : Prop where
  uuid : Calm k.uuid
  unit : Calm k.unit
  processors : ∀ f ∈ k.processors, ∀ e, Calm (f.ask e)
  integrations : ∀ f ∈ k.integrations, ∀ e, Calm (f.ask e)
  last : ∀ kind, ∀ f ∈ (k.last kind).toList, ∀ e, Calm (f.ask e)

theorem calm_passage (c : ClientId) (client : Client) (scope : Option Scope) (hint : EventHint) :
    CalmPassage (passage c client scope hint) where
  uuid := Calm.draw Fresh.uuid
  unit := Calm.draw Fresh.unit
  processors f hf e := by
    cases scope with
    | none => cases hf
    | some scope =>
      obtain ⟨g, -, rfl⟩ := List.mem_map.mp hf
      exact Calm.pure (g e)
  integrations f hf e := by
    obtain ⟨i, -, rfl⟩ := List.mem_map.mp hf
    exact Calm.pure (i.process client.options.toSettings e)
  last kind f hf e := by
    cases kind with
    | default | transaction =>
      obtain ⟨g, -, rfl⟩ := Option.map_eq_some_iff.mp (Option.mem_toList.mp hf)
      exact Calm.pure (g e hint)
    | checkIn => cases hf

theorem calm_prepare {k : Client.Passage Action} (calm : CalmPassage k) (client : Client)
    (stack : Option Stacktrace) (traces : Traces) (scope : Option Scope) (e : Event) :
    Calm (client.prepare k stack traces scope e).run := by
  unfold Client.prepare
  refine Calm.andThen (Calm.lift ?_) fun e => ?_
  · unfold Client.identify
    split
    · exact Calm.bind calm.uuid fun _ => Calm.pure _
    · exact Calm.pure _
  refine Calm.andThen (Calm.askAll calm.processors _) fun e => ?_
  refine Calm.andThen (Calm.askAll calm.integrations _) fun e => ?_
  unfold Client.finish
  refine Calm.andThen ?_ fun _ => ?_
  · unfold Client.ignore
    split
    · exact Calm.error _
    · exact Calm.ok ()
  refine Calm.andThen (calm_sample _ calm.unit e) fun _ => ?_
  exact Calm.askAll (calm.last _) e

/-! ### Clients in a world -/

theorem bind_done {x : Action α} {f : α → Action β} {a : α} {w w' : World}
    (h : x w = (.done a, w')) : (x >>= f) w = f a w' := by
  show Run.bind x f w = _
  rw [Run.bind, h]

theorem bind_panicked {x : Action α} {f : α → Action β} {p : Payload} {w w' : World}
    (h : x w = (.panicked p, w')) : (x >>= f) w = (.panicked p, w') := by
  show Run.bind x f w = _
  rw [Run.bind, h]

theorem bind_blocked {x : Action α} {f : α → Action β} {w w' : World}
    (h : x w = (.blocked, w')) : (x >>= f) w = (.blocked, w') := by
  show Run.bind x f w = _
  rw [Run.bind, h]

/-- The world after a client has done something. -/
def afterStep (c : ClientId) (r : Client.Step α) (w : World) : World :=
  { w with
    calls := w.calls + 1
    clients := w.clients.set c r.client
    thread := { w.thread with log := w.thread.log ++ r.diagnostics } }

theorem client?_eq (c : ClientId) (w : World) : client? c w = (.done w.clients[c]?, w) := rfl

theorem onClient_none {c : ClientId} {w : World} (missing : w.clients[c]? = none) (default : α)
    (f : Instant → Emitter.Pace → Client → Client.Step α) :
    onClient c default f w = (.done default, { w with calls := w.calls + 1 }) := by
  let w' : World := { w with calls := w.calls + 1 }
  have paced : nextPace w = (.done (w.pace.sub w.calls), w') := rfl
  have timed : now w' = (.done w.fresh.now, w') := rfl
  have found : client? c w' = (.done none, w') := by rw [client?_eq, ← missing]
  exact (bind_done paced).trans ((bind_done timed).trans (bind_done found))

theorem onClient_some {c : ClientId} {client : Client} {w : World}
    (there : w.clients[c]? = some client) (default : α)
    (f : Instant → Emitter.Pace → Client → Client.Step α) :
    let pace := w.pace.sub w.calls
    let r := f w.fresh.now (pace.sub 1) (client.turn w.fresh.now (pace.sub 0))
    onClient c default f w =
      (if r.panicked then .panicked requestPanic else .done r.result, afterStep c r w) := by
  intro pace r
  let w' : World := { w with calls := w.calls + 1 }
  have paced : nextPace w = (.done pace, w') := rfl
  have timed : now w' = (.done w.fresh.now, w') := rfl
  have found : client? c w' = (.done (some client), w') := by rw [client?_eq, ← there]
  refine (bind_done paced).trans ((bind_done timed).trans ((bind_done found).trans ?_))
  show (if r.panicked then Run.unwind requestPanic else pure r.result) (afterStep c r w) = _
  split <;> rfl

/-! ### Events -/

/-- What becomes of an event whose way has ended. -/
def afterPrepare (c : ClientId) (client : Client) :
    Except EventDrop Event → Action Client.Verdict
  | .error d => return .dropped d
  | .ok e => do
    let item := Item.ofEvent e
    if client.isLimited (← now) item.category then return .limited e.id item.category
    sendEnvelope c (.ofItem item)
    return .sent e

theorem afterPrepare_ok (c : ClientId) (client : Client) (e : Event) (w : World) :
    afterPrepare c client (.ok e) w =
      if client.isLimited w.fresh.now (Item.ofEvent e).category then
        (.done (.limited e.id (Item.ofEvent e).category), w)
      else (sendEnvelope c (.ofItem (.ofEvent e)) >>= fun _ => pure (.sent e)) w := by
  have timed : now w = (.done w.fresh.now, w) := rfl
  refine (bind_done timed).trans ?_
  split <;> rfl

theorem process_eq {client : Client} (attached : client.current?.isSome = true) (c : ClientId)
    (scope : Option Scope) (hint : EventHint) (e : Event) (stack : Option Stacktrace)
    (traces : Traces) (w : World) :
    ∃ r fresh,
      (client.prepare (passage c client scope hint) stack traces scope e).run w =
        (.done r, { w with fresh }) ∧
      client.process (passage c client scope hint) stack traces scope e w =
        afterPrepare c client r { w with fresh } := by
  obtain ⟨r, fresh, prepared⟩ :=
    calm_prepare (calm_passage c client scope hint) client stack traces scope e w
  refine ⟨r, fresh, prepared, ?_⟩
  have there : client.current?.isNone = false := by
    rw [Option.isNone_eq_false_iff]
    exact attached
  unfold Client.process
  rw [there]
  refine (bind_done prepared).trans ?_
  cases r with
  | error d => rfl
  | ok e => rfl

theorem process_gone {client : Client} (gone : client.current? = none) {m : Type → Type} [Monad m]
    (k : Client.Passage m) (stack : Option Stacktrace) (traces : Traces) (scope : Option Scope)
    (e : Event) : client.process k stack traces scope e = pure (.noTransport e.id) := by
  rw [Client.process, gone]
  rfl

theorem processEvent_none {c : ClientId} {w : World} (missing : w.clients[c]? = none)
    (scope : Option Scope) (hint : EventHint) (e : Event) :
    processEvent c scope hint e w = (.done Uuid.nil, { w with calls := w.calls + 1 }) := by
  let w' : World := { w with calls := w.calls + 1 }
  have found : client? c w' = (.done none, w') := by rw [client?_eq, ← missing]
  exact (bind_done (onClient_none missing () _)).trans (bind_done found)

/-- A client whose workers have gone on. -/
def turned (client : Client) (w : World) : Client :=
  client.turn w.fresh.now ((w.pace.sub w.calls).sub 0)

/-- The world after the workers of a client have gone on. -/
def afterTurn (c : ClientId) (client : Client) (w : World) : World :=
  afterStep c (α := Unit) ⟨(), turned client w, [], false⟩ w

theorem getElem?_afterStep {c : ClientId} {client : Client} {w : World}
    (there : w.clients[c]? = some client) (r : Client.Step α) :
    (afterStep c r w).clients[c]? = some r.client := by
  obtain ⟨inside, -⟩ := List.getElem?_eq_some_iff.mp there
  exact List.getElem?_set_self inside

theorem processEvent_some {c : ClientId} {client : Client} {w : World}
    (there : w.clients[c]? = some client) (scope : Option Scope) (hint : EventHint) (e : Event) :
    processEvent c scope hint e w =
      ((turned client w).process (passage c (turned client w) scope hint) w.stack w.traces scope e
        >>= fun verdict => do tell verdict.diagnostics; return verdict.id)
        (afterTurn c client w) := by
  have progressed : progress c w = (.done (), afterTurn c client w) := onClient_some there () _
  have found : client? c (afterTurn c client w) =
      (.done (some (turned client w)), afterTurn c client w) := by
    rw [client?_eq, afterTurn, getElem?_afterStep there]
  exact (bind_done progressed).trans ((bind_done found).trans rfl)

theorem layers_eq {h : HubId} {w : World} (unlocked : (w.hub h).locked = false) :
    layers h w = (.done (w.hub h).layers, w) := by
  show (if (w.hub h).locked then Run.block else pure (w.hub h).layers) w = _
  rw [unlocked]
  rfl

theorem top_eq {h : HubId} {w : World} (unlocked : (w.hub h).locked = false) :
    top h w = (.done (w.hub h).layers.top, w) := bind_done (layers_eq unlocked)

theorem layers_locked {h : HubId} {w : World} (locked : (w.hub h).locked = true) :
    layers h w = (.blocked, w) := by
  show (if (w.hub h).locked then Run.block else pure (w.hub h).layers) w = _
  rw [locked]
  rfl

theorem top_locked {h : HubId} {w : World} (locked : (w.hub h).locked = true) :
    top h w = (.blocked, w) := bind_blocked (layers_locked locked)

theorem editLayers_eq {h : HubId} {w : World} (unlocked : (w.hub h).locked = false)
    (f : Layers → α × Layers) :
    editLayers h f w = (.done (f (w.hub h).layers).1,
      w.editHub h fun hub => { hub with layers := (f (w.hub h).layers).2 }) :=
  bind_done (layers_eq unlocked)

theorem editLayers_locked {h : HubId} {w : World} (locked : (w.hub h).locked = true)
    (f : Layers → α × Layers) : editLayers h f w = (.blocked, w) :=
  bind_blocked (layers_locked locked)

theorem forkHub_eq {h : HubId} {w : World} (unlocked : (w.hub h).locked = false) :
    forkHub h w = (.done w.hubs.length,
      { w with hubs := w.hubs ++ [.new (w.hub h).layers.top.client (w.hub h).layers.top.scope] }) :=
  bind_done (top_eq unlocked)

end Action

/-! ### Hubs -/

namespace World

variable {w : World}

theorem hub_editHub_ne {i j : HubId} (ne : i ≠ j) (f : Hub → Hub) :
    (w.editHub i f).hub j = w.hub j := by
  show ((w.hubs.modify i f)[j]?).getD default = _
  rw [List.getElem?_modify_ne _ _ ne]
  rfl

theorem hub_editHub_self {i : HubId} (inside : i < w.hubs.length) (f : Hub → Hub) :
    (w.editHub i f).hub i = f (w.hub i) := by
  show ((w.hubs.modify i f)[i]?).getD default = f (w.hubs[i]?.getD default)
  rw [List.getElem?_modify_eq, List.getElem?_eq_getElem inside]
  rfl

theorem length_editHub (i : HubId) (f : Hub → Hub) : (w.editHub i f).hubs.length = w.hubs.length :=
  List.length_modify ..

theorem hub_outside {h : HubId} (outside : w.hubs.length ≤ h) : w.hub h = default := by
  show w.hubs[h]?.getD default = _
  rw [List.getElem?_eq_none outside]
  rfl

/-- What an edit of a hub leaves alone, it leaves alone in every hub. -/
theorem hub_editHub_same {β : Type} (part : Hub → β) {i : HubId} {f : Hub → Hub}
    (same : part (f (w.hub i)) = part (w.hub i)) (j : HubId) :
    part ((w.editHub i f).hub j) = part (w.hub j) := by
  by_cases eq : i = j
  · subst eq
    rcases Nat.lt_or_ge i w.hubs.length with inside | outside
    · rw [hub_editHub_self inside, same]
    · rw [hub_outside outside, hub_outside (w.length_editHub i f ▸ outside)]
  · rw [hub_editHub_ne eq]

theorem hub_addHub (x : Hub) (h : HubId) :
    ({ w with hubs := w.hubs ++ [x] } : World).hub h =
      if h = w.hubs.length then x else w.hub h := by
  show ((w.hubs ++ [x])[h]?).getD default = if _ then _ else w.hubs[h]?.getD default
  split
  · next eq => simp [eq]
  · next ne =>
    rcases Nat.lt_or_gt_of_ne ne with inside | outside
    · rw [List.getElem?_append_left inside]
    · rw [List.getElem?_eq_none (by simp; omega), List.getElem?_eq_none (by omega)]

/-- The hub in use, if none has to be made for that. -/
def inUse? (w : World) : Option HubId :=
  w.thread.bound.or (if w.thread.ownsMain then some w.main else w.thread.derived)

end World

namespace Action

variable {α : Type} {h : HubId} {w : World}

theorem currentHub_eq (current : w.inUse? = some h) : currentHub w = (.done h, w) := by
  have asked : thread w = (.done w.thread, w) := rfl
  have got : (Run.get : Action World) w = (.done w, w) := rfl
  refine (bind_done asked).trans ?_
  cases bound : w.thread.bound with
  | some b =>
    simp only [World.inUse?, bound, Option.some_or, Option.some.injEq] at current
    rw [current]
    rfl
  | none =>
    refine (bind_done got).trans ?_
    rw [World.inUse?, bound, Option.none_or] at current
    cases owns : w.thread.ownsMain with
    | true =>
      rw [owns, if_pos rfl, Option.some.injEq] at current
      rw [current]
      rfl
    | false =>
      rw [owns, if_neg Bool.false_ne_true] at current
      rw [current]
      rfl

theorem currentHub_none (none : w.inUse? = none) :
    currentHub w = (do
      let h ← forkHub w.main
      editThread fun t => { t with derived := some h }
      return h : Action HubId) w := by
  have asked : thread w = (.done w.thread, w) := rfl
  have got : (Run.get : Action World) w = (.done w, w) := rfl
  obtain ⟨bound, unbound⟩ := Option.or_eq_none_iff.mp none
  refine (bind_done asked).trans ?_
  rw [bound]
  refine (bind_done got).trans ?_
  cases owns : w.thread.ownsMain with
  | true => simp [owns] at unbound
  | false =>
    rw [owns, if_neg Bool.false_ne_true] at unbound
    rw [unbound]
    rfl

theorem visit_active (current : w.inUse? = some h) (default : α) (f : HubId → Action α) :
    Target.active.visit default f w =
      if !(w.hub h).locked && (w.hub h).layers.top.client.any w.isEnabled then f h w
      else (.done default, w) := by
  have looked : isActive h w = (.done (!(w.hub h).locked &&
      (w.hub h).layers.top.client.any w.isEnabled), w) := rfl
  have found : Target.active.find? w = _ :=
    (bind_done (currentHub_eq current)).trans (bind_done looked)
  refine (bind_done found).trans ?_
  split <;> rfl

end Action

/-- A world with one client, bound to its only hub. -/
def World.single (client : Client) (pace : Emitter.Pace) : World :=
  { fresh := ⟨.epoch, fun _ => 1, 0⟩, stack := none, pace, calls := 0, hooked := false
    clients := [client], hubs := [Hub.new (some 0) default], main := 0, traces := .empty
    thread := .new }

end Telemetry
