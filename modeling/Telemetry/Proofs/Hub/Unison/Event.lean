import Telemetry.Proofs.Hub.Linked

/-! Calls that a task makes in two worlds at once. If its worlds look alike, it gets results that look
alike, hands over envelopes that look alike, and its worlds look alike afterwards. -/

namespace Telemetry

open Run

variable {ρ α β : Type} {g : Bench} {o o' lock : Option HubId} {l l' : Locals ρ} {k : ClientId}
  {v : View}

/-! ### Clients -/

namespace Client

variable {c c' : Client}

/-- What two clients did led to alike things, without a panic. -/
structure Tandem (v : View) (R : α → β → Prop) (c c' : Client) (r : Step α) (r' : Step β) :
    Prop where
  takes : ∃ es es', Takes c r.client es ∧ Takes c' r'.client es' ∧
    es.map (Envelope.seen v) = es'.map (Envelope.seen v)
  calm : r.panicked = false
  calm' : r'.panicked = false
  result : R r.result r'.result

theorem takes_sent (now : Instant) (pace : Emitter.Pace) (e : Event) (c : Client) :
    Takes c (c.send now pace (.ofItem (.ofEvent e))).client
      (if c.current?.isSome then [.ofItem (.ofEvent e)] else []) := by
  split
  · next attached => exact takes_send now pace e attached
  · next gone =>
    rw [Client.send, Option.not_isSome_iff_eq_none.mp gone]
    exact .refl c

theorem Twin.send (twin : Twin v c c') {e e' : Event} (alike : e.seen v = e'.seen v)
    (now now' : Instant) (pace pace' : Emitter.Pace) :
    Tandem v Eq c c' (c.send now pace (.ofItem (.ofEvent e)))
      (c'.send now' pace' (.ofItem (.ofEvent e'))) where
  takes := by
    refine ⟨_, _, takes_sent now pace e c, takes_sent now' pace' e' c', ?_⟩
    rw [twin.frame.attached]
    split
    · simp [Envelope.seen_ofEvent, alike]
    · rfl
  calm := twin.steady.send_panicked now pace _
  calm' := twin.steady'.send_panicked now' pace' _
  result := rfl

theorem SameFrame.fillIn (same : SameFrame c c') (stack : Option Stacktrace) (traces : Traces)
    (scope : Option Scope) : c.fillIn stack traces scope = c'.fillIn stack traces scope := by
  funext e
  unfold Client.fillIn Client.complete
  rw [same.options, same.sdk]

end Client

namespace Event

/-- Two events that look alike. -/
def Alike (v : View) (e e' : Event) : Prop := e.seen v = e'.seen v

/-- A view shows the fields of an event that no identifier or time is in. -/
theorem Alike.field {e e' : Event} (h : e.Alike v e') (f : Event → β)
    (shown : ∀ e : Event, f (e.seen v) = f e) : f e = f e' := by
  have same : e.seen v = e'.seen v := h
  rw [← shown e, same, shown]

theorem Alike.edit {e e' : Event} (h : e.Alike v e') (f : Event → Event)
    (through : ∀ e : Event, (f e).seen v = f (e.seen v)) : (f e).Alike v (f e') := by
  have same : e.seen v = e'.seen v := h
  rw [Alike, through, same, through]

theorem Alike.kind {e e' : Event} (h : e.Alike v e') : e.kind = e'.kind :=
  h.field Event.kind fun _ => rfl

theorem Alike.id {e e' : Event} (h : e.Alike v e') : e.id.seen v = e'.id.seen v := by
  have same : e.seen v = e'.seen v := h
  show (e.seen v).id = (e'.seen v).id
  rw [same]

theorem Alike.isNil {e e' : Event} (h : e.Alike v e') : e.id.isNil = e'.id.isNil :=
  h.field (fun e => e.id.isNil) fun e => Uuid.isNil_seen e.id

theorem Blind.rel {f : Event → Option Event} (blind : Event.Blind v f) {e e' : Event}
    (h : e.Alike v e') : Option.Rel (Event.Alike v) (f e) (f e') := by
  have same := blind e e' h
  cases left : f e <;> cases right : f e' <;> rw [left, right] at same
  · exact .none
  · cases same
  · cases same
  · exact .some (Option.some.inj same)

end Event

namespace Action

/-- Two calls in worlds that belong together. -/
abbrev Unison (g : Bench) (o o' lock : Option HubId) (l l' : Locals ρ) (R : α → β → Prop)
    (x : Action α) (y : Action β) : Prop :=
  Match (Linked g o o' lock l l') (Linked g o o' lock l l') R x y

/-- Two calls that cannot panic, in worlds that belong together. -/
abbrev Calmly (g : Bench) (o o' lock : Option HubId) (l l' : Locals ρ) (R : α → β → Prop)
    (x : Action α) (y : Action β) : Prop :=
  Lead (Linked g o o' lock l l') (Linked g o o' lock l l') R x y

/-! ### Draws and the thread -/

theorem calmly_draw {f : Fresh → α × Fresh} {R : α → α → Prop}
    (h : ∀ s s' : Fresh, (g.view = .sharp → s = s') → R (f s).1 (f s').1) :
    Calmly g o o' lock l l' R (draw f) (draw f) :=
  Lead.modifyGet fun w w' linked => by
    refine ⟨h _ _ linked.tie.fresh, linked.aside ⟨rfl, rfl, rfl, rfl, rfl, rfl, rfl⟩
      ⟨rfl, rfl, rfl, rfl, rfl, rfl, rfl⟩ fun sharp => ?_⟩
    show (f w.fresh).2 = (f w'.fresh).2
    rw [linked.tie.fresh sharp]

theorem seen_eq_of {β : Type} {seen : View → β → β} {x x' : β} (sharp : v = .sharp → x = x')
    (blurred : seen .blurred x = seen .blurred x') : seen v x = seen v x' := by
  cases v with
  | sharp => rw [sharp rfl]
  | blurred => exact blurred

theorem seen_random (n n' : Nat) :
    (Uuid.random n).seen .blurred = (Uuid.random n').seen .blurred := by
  simp [Uuid.seen, Uuid.isNil_random]

theorem calmly_uuid :
    Calmly g o o' lock l l' (fun u u' => u.seen g.view = u'.seen g.view) (draw Fresh.uuid)
      (draw Fresh.uuid) :=
  calmly_draw fun _ _ same =>
    seen_eq_of (fun sharp => by rw [same sharp]) (seen_random _ _)

theorem calmly_blankEvent :
    Calmly g o o' lock l l' (Event.Alike g.view) blankEvent blankEvent := by
  refine calmly_draw fun s s' same => seen_eq_of (fun sharp => by rw [same sharp]) ?_
  simp only [Event.fresh, Event.empty, Event.seen, Fresh.uuid]
  rw [seen_random s.draw.1 s'.draw.1]
  rfl

theorem calmly_editThread {f f' : ThreadState → ThreadState}
    (keeps : ∀ t, (f t).boundaries = t.boundaries ∧ (f t).bound = t.bound)
    (keeps' : ∀ t, (f' t).boundaries = t.boundaries ∧ (f' t).bound = t.bound) :
    Calmly g o o' lock l l' Eq (editThread f) (editThread f') :=
  Lead.modify fun _ _ linked => linked.aside
    ⟨rfl, rfl, rfl, (keeps _).1, (keeps _).2, rfl, rfl⟩
    ⟨rfl, rfl, rfl, (keeps' _).1, (keeps' _).2, rfl, rfl⟩ linked.tie.fresh

theorem calmly_tell (ds ds' : List Diagnostic) :
    Calmly g o o' lock l l' Eq (tell ds) (tell ds') :=
  calmly_editThread (fun _ => ⟨rfl, rfl⟩) fun _ => ⟨rfl, rfl⟩

theorem calmly_now : Calmly g o o' lock l l' (fun t t' => t.seen g.view = t'.seen g.view) now now :=
  Lead.get.andThen fun _ _ linked =>
    .pure (seen_eq_of (fun sharp => by rw [linked.tie.fresh sharp]) rfl)

theorem calmly_isInsideBoundary (fair : g.Fair) :
    Calmly g o o' lock l l' Eq isInsideBoundary isInsideBoundary :=
  (Lead.get.andThen fun _ _ linked => .pure linked).andThen fun w w' linked => .pure (by
    rw [(linked.alike fair).boundaries])

/-! ### Events -/

section

variable (fair : g.Fair) (used : g.clients k)
include fair used

theorem calmly_onClient {R : α → β → Prop} {a : α} {b : β} (absent : R a b)
    {f : Instant → Emitter.Pace → Client → Client.Step α}
    {f' : Instant → Emitter.Pace → Client → Client.Step β}
    (tandem : ∀ now now' pace pace' c c', Client.Twin g.view c c' →
      Client.Tandem g.view R c c' (f now pace c) (f' now' pace' c')) :
    Calmly g o o' lock l l' R (onClient k a f) (onClient k b f') := by
  intro w w' linked
  have twin := linked.twin fair used
  cases there : w.clients[k]? with
  | none =>
    rw [there] at twin
    cases there' : w'.clients[k]? with
    | none =>
      rw [onClient_none there, onClient_none there']
      exact ⟨a, b, _, _, rfl, rfl, absent, linked.aside ⟨rfl, rfl, rfl, rfl, rfl, rfl, rfl⟩
        ⟨rfl, rfl, rfl, rfl, rfl, rfl, rfl⟩ linked.tie.fresh⟩
    | some c' =>
      rw [there'] at twin
      cases twin
  | some c =>
    rw [there] at twin
    cases there' : w'.clients[k]? with
    | none =>
      rw [there'] at twin
      cases twin
    | some c' =>
      rw [there'] at twin
      cases twin with
      | some twin =>
        have moved := Client.takes_turn w.fresh.now ((w.pace.sub w.calls).sub 0) c
        have moved' := Client.takes_turn w'.fresh.now ((w'.pace.sub w'.calls).sub 0) c'
        have both := tandem w.fresh.now w'.fresh.now ((w.pace.sub w.calls).sub 1)
          ((w'.pace.sub w'.calls).sub 1) _ _ (twin.takes moved moved')
        obtain ⟨es, es', takes, takes', alike⟩ := both.takes
        rw [onClient_some there, onClient_some there']
        simp only [both.calm, both.calm', Bool.false_eq_true, if_false]
        refine ⟨_, _, _, _, rfl, rfl, both.result, ?_⟩
        exact (linked.setClients there there' (moved.trans takes) (moved'.trans takes')
          alike).aside ⟨rfl, rfl, rfl, rfl, rfl, rfl, rfl⟩ ⟨rfl, rfl, rfl, rfl, rfl, rfl, rfl⟩
          linked.tie.fresh

theorem calmly_progress : Calmly g o o' lock l l' Eq (progress k) (progress k) :=
  calmly_onClient fair used rfl fun _ _ _ _ c c' _ =>
    ⟨⟨[], [], .refl c, .refl c', rfl⟩, rfl, rfl, rfl⟩

theorem calmly_sendEnvelope {e e' : Event} (alike : e.Alike g.view e') :
    Calmly g o o' lock l l' Eq (sendEnvelope k (.ofItem (.ofEvent e)))
      (sendEnvelope k (.ofItem (.ofEvent e'))) :=
  calmly_onClient fair used rfl fun now now' pace pace' _ _ twin =>
    twin.send alike now now' pace pace'

/-- How far a flush gets is up to the workers. -/
theorem calmly_flushClient :
    Calmly g o o' lock l l' (fun _ _ => True) (flushClient k) (flushClient k) :=
  calmly_onClient fair used trivial fun now now' pace pace' c c' _ =>
    ⟨⟨[], [], Client.takes_flush now pace c, Client.takes_flush now' pace' c', rfl⟩, rfl, rfl,
      trivial⟩

theorem calmly_client? :
    Calmly g o o' lock l l' (Option.Rel (Client.Twin g.view)) (client? k) (client? k) :=
  Lead.get.andThen fun _ _ linked => .pure (linked.twin fair used)

end

theorem unison_sampleWith {rate : Float32}
    (settled : g.view = .sharp ∨ rate ≥ 1 ∨ rate ≤ 0) :
    Unison g o o' lock l l' Eq (Client.sampleWith (draw Fresh.unit) rate)
      (Client.sampleWith (draw Fresh.unit) rate) := by
  unfold Client.sampleWith
  split
  · exact .pure rfl
  · next undecided =>
    have sharp : g.view = .sharp := settled.resolve_right (by simpa using undecided)
    refine (calmly_draw (R := Eq) fun s s' same => by rw [same sharp]).toMatch.bind ?_
    rintro x _ rfl
    exact .pure rfl

theorem match_lastStage {f : Option (Event → EventHint → Option Event)}
    (blind : ∀ x ∈ f, ∀ hint, Event.Blind g.view fun e => x e hint) (hint : EventHint) :
    List.Forall₂ (Stage.Match (Linked g o o' lock l l') (Event.Alike g.view))
      (f.map (Client.lastStage hint)).toList (f.map (Client.lastStage hint)).toList := by
  cases f with
  | none => exact .nil
  | some x =>
    exact .cons (Stage.match_ofFunction (fun _ _ => (blind x rfl hint).rel) _ _) .nil

/-- Alike events meet alike things on their ways through clients that treat them alike. -/
theorem route_passage {c c' : Client} {s s' : Scope} (twin : Client.Twin g.view c c')
    (seen : s.seen g.view = s'.seen g.view) (blind : s.Blind g.view) (hint : EventHint)
    (stack : Option Stacktrace) (traces : Traces) :
    Client.Route (Linked g o o' lock l l') (Event.Alike g.view) (passage k c (some s) hint)
      (passage k c' (some s') hint) (c.fillIn stack traces (some s))
      (c'.fillIn stack traces (some s')) c c' where
  identified e e' alike := by
    unfold Client.identify
    rw [alike.isNil]
    split
    · refine calmly_uuid.toMatch.bind fun u u' same => .pure ?_
      have whole : e.seen g.view = e'.seen g.view := alike
      show { e.seen g.view with id := u.seen g.view } = { e'.seen g.view with id := u'.seen g.view }
      rw [whole, same]
    · exact .pure alike
  filled e e' alike := by
    have whole : e.seen g.view = e'.seen g.view := alike
    unfold Event.Alike
    rw [Client.seen_fillIn, Client.seen_fillIn, whole, seen, twin.frame.fillIn]
  processors := by
    have same : (s.seen g.view).processors = (s'.seen g.view).processors := by rw [seen]
    have same : s.processors = s'.processors := same
    show List.Forall₂ _ (s.processors.map _) (s'.processors.map _)
    rw [← same, List.forall₂_map_left_iff, List.forall₂_map_right_iff]
    exact List.forall₂_same.mpr fun f hf => Stage.match_ofFunction (fun _ _ => (blind f hf).rel) _ _
  integrations := by
    show List.Forall₂ _ (c.integrations.map _) (c'.integrations.map _)
    rw [← twin.frame.integrations, ← twin.frame.options, List.forall₂_map_left_iff,
      List.forall₂_map_right_iff]
    exact List.forall₂_same.mpr fun i hi =>
      Stage.match_ofFunction (fun _ _ => (twin.blind.integrations i hi).rel) _ _
  ignored e e' alike := by
    rw [twin.frame.patterns, alike.field (Client.ignoredBy? c'.patterns) fun _ => rfl]
  sampled e e' alike := by
    unfold Client.sample
    rw [alike.kind, alike.field Event.traceContext? fun _ => rfl, twin.frame.options]
    cases e'.kind with
    | transaction =>
      dsimp only
      split
      · exact .pure (.stopped _ _)
      · exact .pure (.ok trivial)
    | default =>
      refine Passed.andThen (P := Eq) (Passed.lift ?_) fun kept _ same => ?_
      · exact unison_sampleWith (twin.frame.options ▸ twin.blind.rate)
      · subst same
        cases kept
        · exact .pure (.stopped _ _)
        · exact .pure (.ok trivial)
    | checkIn => exact .pure (.ok trivial)
  last e e' alike := by
    rw [alike.kind]
    cases e'.kind with
    | default =>
      show List.Forall₂ _ (c.options.beforeSend.map _).toList _
      rw [twin.frame.options]
      exact match_lastStage (twin.frame.options ▸ twin.blind.beforeSend) hint
    | transaction =>
      show List.Forall₂ _ (c.options.beforeSendTransaction.map _).toList _
      rw [twin.frame.options]
      exact match_lastStage (twin.frame.options ▸ twin.blind.beforeSendTransaction) hint
    | checkIn => exact .nil

end Action

end Telemetry
