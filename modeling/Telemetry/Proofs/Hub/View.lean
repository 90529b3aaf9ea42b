import Telemetry.Proofs.Client.Filling
import Telemetry.Proofs.Hub.Closing
import Telemetry.Proofs.Text.Hex

/-! What two runs of the same code have in common. A sharp view shows everything. A blurred one shows
all but the identifiers of events, of which it only shows whether there is one, and the times of
events and breadcrumbs. Two things are alike in a view if they look the same in it. -/

namespace Telemetry

inductive View where
  | sharp
  | blurred

/-! ### What is seen -/

def Uuid.seen : View → Uuid → Uuid
  | .sharp, u => u
  | .blurred, u => if u.isNil then Uuid.nil else Uuid.random 0

def Instant.seen : View → Instant → Instant
  | .sharp, t => t
  | .blurred, _ => .epoch

variable (v : View)

def Breadcrumb.seen (b : Breadcrumb) : Breadcrumb := { b with timestamp := b.timestamp.seen v }

def Event.seen (e : Event) : Event :=
  { e with
    id := e.id.seen v
    timestamp := e.timestamp.seen v
    breadcrumbs := e.breadcrumbs.map (Breadcrumb.seen v) }

def Item.seen : Item → Item
  | .event e => .event (e.seen v)
  | .transaction e => .transaction (e.seen v)
  | i => i

def Envelope.seen (e : Envelope) : Envelope := ⟨e.id.map (Uuid.seen v), e.items.map (Item.seen v)⟩

def Scope.seen (s : Scope) : Scope :=
  { s with breadcrumbs := s.breadcrumbs.map (Breadcrumb.seen v) }

def Layer.seen (l : Layer) : Layer := { l with scope := l.scope.seen v }

def Layers.seen (s : Layers) : Layers := ⟨s.top.seen v, s.below.map (Layer.seen v)⟩

/-- A hub without the last event it sent. -/
def Hub.seen (h : Hub) : Hub := { h with layers := h.layers.seen v, lastEventId := none }

def Occasion.seen : Occasion → Occasion
  | .event hint e => .event hint (e.seen v)
  | o => o

variable {v : View}

@[simp] theorem Uuid.isNil_seen (u : Uuid) : (u.seen v).isNil = u.isNil := by
  cases v with
  | sharp => rfl
  | blurred =>
    rw [Uuid.seen]
    split
    · next nil => exact nil.symm
    · next named => simpa using (Bool.eq_false_iff.mpr named).symm ▸ (by decide)

@[simp] theorem Breadcrumb.seen_sharp : Breadcrumb.seen .sharp = id := rfl

@[simp] theorem Event.seen_sharp (e : Event) : e.seen .sharp = e := by
  simp [Event.seen, Uuid.seen, Instant.seen]

@[simp] theorem Scope.seen_sharp (s : Scope) : s.seen .sharp = s := by
  simp [Scope.seen]

@[simp] theorem Envelope.seen_sharp (e : Envelope) : e.seen .sharp = e := by
  have items : Item.seen .sharp = fun i => i := by
    funext i
    cases i <;> simp [Item.seen]
  have ids : Uuid.seen .sharp = fun u => u := rfl
  simp [Envelope.seen, items, ids]

theorem Item.seen_ofEvent (e : Event) : (Item.ofEvent e).seen v = .ofEvent (e.seen v) := by
  unfold Item.ofEvent
  cases hk : e.kind <;> cases hc : e.checkIn <;> simp [Event.seen, Item.seen, hk, hc]

theorem Envelope.seen_ofEvent (e : Event) :
    (Envelope.ofItem (.ofEvent e)).seen v = .ofItem (.ofEvent (e.seen v)) := by
  have item := Item.seen_ofEvent (v := v) e
  have id : ((Item.ofEvent e).eventId?).map (Uuid.seen v) = (Item.ofEvent (e.seen v)).eventId? := by
    rw [← item]
    cases Item.ofEvent e <;> rfl
  show Envelope.mk (((Item.ofEvent e).eventId?).map (Uuid.seen v)) [(Item.ofEvent e).seen v] = _
  rw [id, item]
  rfl

/-! ### Callbacks -/

variable (v) in
/-- A callback that makes of alike events alike events. -/
def Event.Blind (f : Event → Option Event) : Prop :=
  ∀ e e', e.seen v = e'.seen v → (f e).map (Event.seen v) = (f e').map (Event.seen v)

theorem Event.blind_sharp (f : Event → Option Event) : Event.Blind .sharp f := by
  intro e e' same
  rw [Event.seen_sharp, Event.seen_sharp] at same
  rw [same]

variable (v) in
def Scope.Blind (s : Scope) : Prop := ∀ f ∈ s.processors, Event.Blind v f

variable (v) in
def Layers.Blind (s : Layers) : Prop := ∀ l ∈ s.toList, l.scope.Blind v

/-- The callbacks of a client make of alike things alike things, and if a view hides the draws, the
rate of errors leaves nothing to a draw. -/
structure Client.Blind (v : View) (c : Client) : Prop where
  beforeSend : ∀ f ∈ c.options.beforeSend, ∀ hint, Event.Blind v fun e => f e hint
  beforeSendTransaction : ∀ f ∈ c.options.beforeSendTransaction, ∀ hint,
    Event.Blind v fun e => f e hint
  integrations : ∀ i ∈ c.integrations, Event.Blind v (i.process c.options.toSettings)
  extractors : ∀ fs ∈ c.panicExtractors?, ∀ f ∈ fs, ∀ message, Event.Blind v (f message)
  beforeBreadcrumb : ∀ f ∈ c.options.beforeBreadcrumb, ∀ b b' : Breadcrumb,
    b.seen v = b'.seen v → (f b).map (Breadcrumb.seen v) = (f b').map (Breadcrumb.seen v)
  rate : v = .sharp ∨ c.options.sampleRate ≥ 1 ∨ c.options.sampleRate ≤ 0

theorem Client.blind_sharp (c : Client) : c.Blind .sharp where
  beforeSend f _ hint := Event.blind_sharp _
  beforeSendTransaction f _ hint := Event.blind_sharp _
  integrations i _ := Event.blind_sharp _
  extractors fs _ f _ message := Event.blind_sharp _
  beforeBreadcrumb f _ b b' same := by
    rw [Breadcrumb.seen_sharp] at same
    rw [show b = b' from same]
  rate := .inl rfl

/-! ### Filling in -/

theorem Client.seen_complete (c : Client) (stack : Option Stacktrace) (e : Event) :
    (c.complete stack e).seen v = c.complete stack (e.seen v) := rfl

namespace Scope

theorem seen_fillTrace (s : Scope) (traces : Traces) (e : Event) :
    (s.fillTrace traces e).seen v = (s.seen v).fillTrace traces (e.seen v) := by
  have span : (s.seen v).span = s.span := rfl
  have contexts : (e.seen v).contexts = e.contexts := rfl
  unfold fillTrace Traces.applyToEvent applyPropagation
  rw [span, contexts]
  split <;> split
  · rfl
  · dsimp only
    split <;> rfl
  · rfl
  · rfl

theorem seen_fillBreadcrumbs (s : Scope) (e : Event) :
    (s.fillBreadcrumbs e).seen v = (s.seen v).fillBreadcrumbs (e.seen v) := by
  have kind : (e.seen v).kind = e.kind := rfl
  unfold fillBreadcrumbs
  rw [kind]
  split
  · simp [Event.seen, Scope.seen]
  · rfl

theorem seen_fill (s : Scope) (traces : Traces) (e : Event) :
    (s.fill traces e).seen v = (s.seen v).fill traces (e.seen v) := by
  have fields : (s.fillFields e).seen v = (s.seen v).fillFields (e.seen v) := rfl
  rw [fill_eq, fill_eq, seen_fillBreadcrumbs, seen_fillTrace, fields]

theorem seen_addBreadcrumb (s : Scope) (b : Breadcrumb) (limit : Nat) :
    (s.addBreadcrumb b limit).seen v = (s.seen v).addBreadcrumb (b.seen v) limit := by
  unfold addBreadcrumb
  split
  · rfl
  · simp [Scope.seen, List.map_drop]

end Scope

theorem Client.seen_fillIn (c : Client) (stack : Option Stacktrace) (traces : Traces) (s : Scope)
    (e : Event) :
    (c.fillIn stack traces (some s) e).seen v =
      c.fillIn stack traces (some (s.seen v)) (e.seen v) := by
  show (s.fill traces (c.complete stack e)).seen v = _
  rw [Scope.seen_fill, Client.seen_complete]
  rfl

end Telemetry
