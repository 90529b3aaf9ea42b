import Telemetry.Hub.Tracing
import Telemetry.Proofs.Hub.Restoring
import Telemetry.Proofs.Trace.Decision

/-! Calls by code that has the layers of the hub in use for itself. Whatever is for the hub in use
finds it taken and leaves it alone, so the call returns. Two calls do not look first and wait for
their own caller: a flush, and finishing a transaction that is to be sent. -/

namespace Telemetry

/-- Somebody writes to the hub in use. -/
structure World.Taken (h : HubId) (w : World) : Prop where
  current : w.inUse? = some h
  locked : (w.hub h).locked = true

theorem World.Taken.of_hubs {h : HubId} {w w' : World} (taken : w.Taken h) (hubs : w'.hubs = w.hubs)
    (inUse : w'.inUse? = w.inUse?) : w'.Taken h where
  current := inUse.trans taken.current
  locked := by
    rw [World.hub, hubs]
    exact taken.locked

namespace Run

variable {τ υ α β : Type} {world : τ → World} {h : HubId}

/-- A computation that returns while the hub in use is taken, and leaves all hubs as they are. -/
def Returns (world : τ → World) (h : HubId) (x : Run τ α) : Prop :=
  ∀ s, (world s).Taken h → ∃ a s', x s = (.done a, s') ∧
    (world s').hubs = (world s).hubs ∧ (world s').inUse? = (world s).inUse?

namespace Returns

theorem aside {x : Run τ α} (done : ∀ s, ∃ a, (x s).1 = .done a)
    (hubs : ∀ s, (world (x s).2).hubs = (world s).hubs)
    (inUse : ∀ s, (world (x s).2).inUse? = (world s).inUse?) : Returns world h x := by
  intro s _
  obtain ⟨a, ends⟩ := done s
  exact ⟨a, (x s).2, Prod.ext ends rfl, hubs s, inUse s⟩

theorem pure (a : α) : Returns world h (Pure.pure a : Run τ α) :=
  .aside (fun _ => ⟨a, rfl⟩) (fun _ => rfl) fun _ => rfl

theorem bind {x : Run τ α} {f : α → Run τ β} (hx : Returns world h x)
    (hf : ∀ a, Returns world h (f a)) : Returns world h (x >>= f) := by
  intro s taken
  obtain ⟨a, s₁, first, hubs₁, inUse₁⟩ := hx s taken
  obtain ⟨b, s₂, then', hubs₂, inUse₂⟩ := hf a s₁ (taken.of_hubs hubs₁ inUse₁)
  refine ⟨b, s₂, ?_, hubs₂.trans hubs₁, inUse₂.trans inUse₁⟩
  show Run.bind x f s = _
  rw [Run.bind, first]
  exact then'

theorem onFirst {x : Action α} (hx : Returns id h x) :
    Returns Prod.fst h (Run.onFirst x : Run (World × υ) α) := by
  rintro ⟨w, own⟩ taken
  obtain ⟨a, w', ran, kept⟩ := hx w taken
  refine ⟨a, (w', own), ?_, kept⟩
  show ((x w).1, (x w).2, own) = _
  rw [ran]

end Returns

end Run

namespace Action

open Run

variable {α : Type} {h : HubId} {w : World}

/-! ### Calls that return -/

/-- A call for the hub in use leaves that alone. -/
theorem find_taken (taken : w.Taken h) : Target.active.find? w = (.done none, w) := by
  have looked : isActive h w = (.done false, w) := by
    show (Outcome.done (!(w.hub h).locked && _), w) = _
    rw [taken.locked]
    rfl
  exact (bind_done (currentHub_eq taken.current)).trans (bind_done looked)

theorem returns_visit (default : α) (f : HubId → Action α) :
    Returns id h (Target.active.visit default f) := fun _ taken =>
  ⟨default, _, bind_done (find_taken taken), rfl, rfl⟩

theorem returns_captureOn (o : Occasion) : Returns id h (captureOn .active o) := by
  cases o <;> exact returns_visit _ _

theorem returns_lastEventId : Returns id h (lastEventId .active) := fun _ taken =>
  ⟨_, _, bind_done (currentHub_eq taken.current), rfl, rfl⟩

theorem returns_draw (f : Fresh → α × Fresh) : Returns id h (draw f) :=
  .aside (fun w => ⟨(f w.fresh).1, rfl⟩) (fun _ => rfl) fun _ => rfl

theorem returns_now : Returns id h now :=
  .aside (fun w => ⟨w.fresh.now, rfl⟩) (fun _ => rfl) fun _ => rfl

theorem returns_editTraces (f : Traces → Traces) : Returns id h (editTraces f) :=
  .aside (fun _ => ⟨(), rfl⟩) (fun _ => rfl) fun _ => rfl

theorem returns_startTransaction (c : TransactionContext) :
    Returns id h (startTransaction .active c) := by
  refine .bind (returns_visit none _) fun k => .bind ?_ fun client => ?_
  · cases k with
    | none => exact .pure none
    | some k => exact .aside (fun w => ⟨w.clients[k]?, rfl⟩) (fun _ => rfl) fun _ => rfl
  · cases client <;> refine .bind ?_ fun sampled => .bind (returns_draw _) fun spanId =>
      .bind returns_now fun now => .aside (fun _ => ⟨_, rfl⟩) (fun _ => rfl) fun _ => rfl
    case none => exact .pure _
    case some client => exact returns_draw _

theorem returns_startChild (n : Node) (op description : String) :
    Returns id h (startChild n op description) := by
  refine .bind (returns_draw _) fun spanId => .bind returns_now fun now => ?_
  refine .aside (fun w => ⟨_, rfl⟩) (fun w => ?_) fun w => ?_ <;>
  · dsimp only [Run.modifyGet]
    cases w.traces.startChild n op description spanId now <;> rfl

theorem returns_finishSpan (i : Nat) : Returns id h (finish (.span i)) :=
  .bind returns_now fun _ => returns_editTraces _

/-! ### Calls that wait -/

/-- A flush waits for the code that makes it. -/
theorem flush_taken (taken : w.Taken h) : flush .active w = (.blocked, w) :=
  (bind_done (currentHub_eq taken.current)).trans (bind_blocked (top_locked taken.locked))

/-- So does finishing a transaction, unless there is nothing to send. -/
theorem finish_taken (taken : w.Taken h) (i : Nat) :
    (finish (.transaction i) w).1 =
      match (w.traces.finishTransaction i (Event.fresh w.fresh).1).1 with
      | none => .done ()
      | some _ => .blocked := by
  rw [finish_transaction]
  cases (w.traces.finishTransaction i (Event.fresh w.fresh).1).1 with
  | none => rfl
  | some sent =>
    let v : World :=
      { w with
        fresh := (Event.fresh w.fresh).2
        traces := (w.traces.finishTransaction i (Event.fresh w.fresh).1).2 }
    have still : v.Taken h := taken.of_hubs rfl rfl
    let send (h : HubId) : Action Unit := do
      let scope := (← top h).scope
      discard <| processEvent sent.1 (some scope) .none sent.2
    have waits : send h v = (.blocked, v) := bind_blocked (top_locked still.locked)
    have entered : (currentHub >>= send) v = (.blocked, v) :=
      (bind_done (currentHub_eq still.current)).trans waits
    exact congrArg Prod.fst entered

end Action

namespace Program

open Run Telemetry.Action

variable {σ α : Type} {h : HubId} {w : World}

/-- Code made of calls of the library, none of them one of the two that wait, and of work on a state
of its own. -/
inductive Reentrant {σ : Type} : {α : Type} → Program σ α → Prop
  | pure {α : Type} (a : α) : Reentrant (Pure.pure a)
  | bind {α β : Type} {x : Program σ α} {f : α → Program σ β} :
    Reentrant x → (∀ a, Reentrant (f a)) → Reentrant (x >>= f)
  | own {α : Type} (f : σ → α × σ) : Reentrant (Run.onSecond (Run.modifyGet f))
  | capture (o : Occasion) : Reentrant (Run.onFirst (captureOn .active o))
  | log (l : Log) : Reentrant (Run.onFirst (captureLog .active l))
  | metric (m : Metric) : Reentrant (Run.onFirst (captureMetric .active m))
  | addBreadcrumbs (make : Program σ (List Breadcrumb)) : Reentrant (addBreadcrumbs .active make)
  | configureScope {α : Type} (edit : HubId → Program σ α) :
    Reentrant (configureScope .active edit)
  | withScope {α : Type} (edit : HubId → Program σ Unit) {body : Program σ α} :
    Reentrant body → Reentrant (withScope .active edit body)
  | startTransaction (c : TransactionContext) :
    Reentrant (Run.onFirst (startTransaction .active c))
  | startChild (n : Node) (op description : String) :
    Reentrant (Run.onFirst (startChild n op description))
  | finishSpan (i : Nat) : Reentrant (Run.onFirst (finish (.span i)))
  | lastEventId : Reentrant (Run.onFirst (lastEventId .active))
  | findIntegration (p : IntegrationKind → Bool) :
    Reentrant (Run.onFirst (findIntegration? .active p))

theorem Reentrant.returns {x : Program σ α} (reentrant : Reentrant x) :
    Returns Prod.fst h x := by
  induction reentrant with
  | pure a => exact .pure a
  | bind _ _ ihx ihf => exact .bind ihx ihf
  | own f => exact .aside (fun s => ⟨(f s.2).1, rfl⟩) (fun _ => rfl) fun _ => rfl
  | capture o => exact (returns_captureOn o).onFirst
  | log l => exact (returns_visit () _).onFirst
  | metric m => exact (returns_visit () _).onFirst
  | addBreadcrumbs make =>
    exact fun s taken => ⟨(), s, onFirst_bind_done (find_taken taken), rfl, rfl⟩
  | configureScope edit =>
    exact fun s taken => ⟨none, s, onFirst_bind_done (find_taken taken), rfl, rfl⟩
  | withScope edit _ ih =>
    -- the code runs, without a layer of its own
    intro s taken
    obtain ⟨a, s', ran, kept⟩ := ih s taken
    exact ⟨a, s', (onFirst_bind_done (find_taken taken)).trans ran, kept⟩
  | startTransaction c => exact (returns_startTransaction c).onFirst
  | startChild n op description => exact (returns_startChild n op description).onFirst
  | finishSpan i => exact (returns_finishSpan i).onFirst
  | lastEventId => exact returns_lastEventId.onFirst
  | findIntegration p => exact (returns_visit none _).onFirst

/-- A hub that was taken and is given back as it was found. -/
theorem editHub_unlock {w w' : World} (unlocked : (w.hub h).locked = false)
    (hubs : w'.hubs = (w.editHub h fun hub => { hub with locked := true }).hubs) :
    (w'.editHub h fun hub => { hub with locked := false }).hubs = w.hubs := by
  show w'.hubs.modify h _ = _
  rw [hubs]
  show (w.hubs.modify h _).modify h _ = _
  rw [List.modify_modify_eq]
  refine List.ext_getElem? fun j => ?_
  rw [List.getElem?_modify]
  by_cases itself : h = j
  · subst itself
    cases there : w.hubs[h]? with
    | none => rfl
    | some hub =>
      have free : hub.locked = false := by simpa [World.hub, there] using unlocked
      simp [← free]
  · cases w.hubs[j]? <;> simp [itself]

/-- Code that edits the scope of the hub in use may call the library, short of the two calls that
wait: it comes to its end, and in the end all hubs are what they were. -/
theorem whileLocked_reentrant {x : Program σ α} (reentrant : Reentrant x)
    (current : w.inUse? = some h) (there : h < w.hubs.length)
    (unlocked : (w.hub h).locked = false) (own : σ) :
    ∃ a w' own', whileLocked h x (w, own) = (.done a, w', own') ∧ w'.hubs = w.hubs := by
  let taken : World := w.editHub h fun hub => { hub with locked := true }
  have entered : taken.Taken h :=
    ⟨current, by rw [World.hub_editHub_self there]⟩
  obtain ⟨a, ⟨w', own'⟩, ran, hubs, -⟩ := reentrant.returns (taken, own) entered
  refine ⟨a, w'.editHub h fun hub => { hub with locked := false }, own', ?_, ?_⟩
  · rw [whileLocked_eq unlocked]
    exact Run.after_eq ran nofun rfl
  · exact editHub_unlock unlocked hubs

end Program

end Telemetry
