import Telemetry.Proofs.Hub.Unison.Event

/-! What a task does with its hubs in two worlds at once: it looks at their layers, captures in them,
and panics while they are in use. -/

namespace Telemetry

open Run

variable {ρ α β : Type} {g : Bench} {o o' lock : Option HubId} {l l' : Locals ρ} {k : ClientId}
  {h h' : HubId}

namespace Action

/-! ### Layers -/

theorem Linked.unlocked {w w' : World} (linked : Linked g o o' lock l l' w w')
    (pair : Paired l l' h h') (free : lock ≠ some h) :
    (w.hub h).locked = false ∧ (w'.hub h').locked = false := by
  obtain ⟨seen, -, locked⟩ := linked.tie.hubs h h' pair
  have left : (w.hub h).locked = false := Bool.eq_false_iff.mpr fun held => free (locked.mp held)
  have same : ((w.hub h).seen g.view).locked = ((w'.hub h').seen g.view).locked := by rw [seen]
  exact ⟨left, same.symm.trans left⟩

section

variable (pair : Paired l l' h h') (free : lock ≠ some h)
include pair free

/-- Layers are read and written alike. -/
theorem calmly_editLayers {R : α → β → Prop} {f : Layers → α × Layers} {f' : Layers → β × Layers}
    (alike : ∀ s s' : Layers, s.seen g.view = s'.seen g.view → s.Fit g.clients g.view →
      R (f s).1 (f' s').1 ∧ (f s).2.seen g.view = (f' s').2.seen g.view ∧
        (f s).2.Fit g.clients g.view) :
    Calmly g o o' lock l l' R (editLayers h f) (editLayers h' f') := by
  intro w w' linked
  obtain ⟨left, right⟩ := Linked.unlocked linked pair free
  obtain ⟨seen, fit, locked⟩ := linked.tie.hubs h h' pair
  obtain ⟨result, same, stillFit⟩ := alike _ _ (congrArg Hub.layers seen :) fit
  refine ⟨_, _, _, _, editLayers_eq left _, editLayers_eq right _, result, ?_⟩
  refine linked.editHubs pair ?_ stillFit locked fun _ _ => Iff.rfl
  have held : (w.hub h).locked = (w'.hub h').locked := left.trans right.symm
  show Hub.mk (Layers.seen _ _) none (w.hub h).locked = Hub.mk (Layers.seen _ _) none _
  rw [same, held]

theorem calmly_top :
    Calmly g o o' lock l l' (fun x x' => x.seen g.view = x'.seen g.view ∧
      (∀ k, x.client = some k → g.clients k) ∧ x.scope.Blind g.view) (top h) (top h') := by
  intro w w' linked
  obtain ⟨left, right⟩ := Linked.unlocked linked pair free
  obtain ⟨seen, fit, -⟩ := linked.tie.hubs h h' pair
  have layers : (w.hub h).layers.seen g.view = (w'.hub h').layers.seen g.view :=
    (congrArg Hub.layers seen :)
  exact ⟨_, _, _, _, top_eq left, top_eq right, ⟨(congrArg Layers.top layers :),
    fit.clients _ List.mem_cons_self, fit.blind _ List.mem_cons_self⟩, linked⟩

end

/-! ### Captures -/

/-- Two identifiers that look alike. -/
abbrev SeenId (g : Bench) (u u' : Uuid) : Prop := u.seen g.view = u'.seen g.view

theorem isNil_of_seen {u u' : Uuid} (same : SeenId g u u') : u.isNil = u'.isNil := by
  rw [← Uuid.isNil_seen (v := g.view) u, same, Uuid.isNil_seen]

theorem calmly_limited {c c' : Client} (twin : Client.Twin g.view c c') (category : Category)
    (category' : Category) :
    Calmly g o o' lock l l' (fun a a' => a = false ∧ a' = false)
      (do return c.isLimited (← now) category) (do return c'.isLimited (← now) category') :=
  calmly_now.andThen fun _ _ _ =>
    .pure ⟨twin.steady.isLimited _ _, twin.steady'.isLimited _ _⟩

theorem unison_processEvent (fair : g.Fair) (used : g.clients k) {s s' : Scope}
    (seen : s.seen g.view = s'.seen g.view) (blind : s.Blind g.view) (hint : EventHint)
    {e e' : Event} (alike : e.Alike g.view e') :
    Unison g o o' lock l l' (SeenId g) (processEvent k (some s) hint e)
      (processEvent k (some s') hint e') := by
  refine (calmly_progress fair used).bind fun _ _ _ => ?_
  refine (calmly_client? fair used).bind fun c c' twin => ?_
  cases twin with
  | none => exact .pure rfl
  | @some c c' twin =>
    refine Lead.get.bind fun w w' linked => ?_
    rw [(linked.alike fair).stack, (linked.alike fair).traces]
    refine Match.bind (R := fun x x' => SeenId g x.id x'.id) ?_ fun x x' same =>
      (calmly_tell _ _).bind fun _ _ _ => .pure same
    unfold Client.process
    rw [← Option.not_isSome, ← Option.not_isSome, twin.frame.attached]
    split
    · exact .pure rfl
    · refine Match.bind ((route_passage twin seen blind hint _ _).prepare alike) ?_
      intro x x' passed
      cases passed with
      | stopped => exact .pure rfl
      | @ok e e' alike =>
        refine (calmly_limited twin _ _).bind fun _ _ free => ?_
        obtain ⟨rfl, rfl⟩ := free
        exact (calmly_sendEnvelope fair used alike).bind fun _ _ _ => .pure alike.id

/-- A hub remembers what it sent last, which no code reads. -/
theorem calmly_remember (pair : Paired l l' h h') (id id' : Option Uuid) :
    Calmly g o o' lock l l' Eq
      (Run.modify (World.editHub h fun hub => { hub with lastEventId := id }))
      (Run.modify (World.editHub h' fun hub => { hub with lastEventId := id' })) :=
  Lead.modify fun _ _ linked => by
    obtain ⟨seen, fit, locked⟩ := linked.tie.hubs h h' pair
    exact linked.editHubs pair seen fit locked fun _ _ => Iff.rfl

theorem unison_captureIn (fair : g.Fair) (pair : Paired l l' h h') (free : lock ≠ some h)
    (hint : EventHint) {e e' : Event} (alike : e.Alike g.view e') :
    Unison g o o' lock l l' (SeenId g) (captureIn h hint e) (captureIn h' hint e') := by
  refine (calmly_top pair free).bind fun x x' ⟨seen, used, blind⟩ => ?_
  have client : x.client = x'.client := (congrArg Layer.client seen :)
  have scope : x.scope.seen g.view = x'.scope.seen g.view := (congrArg Layer.scope seen :)
  rw [← client]
  cases bound : x.client with
  | none => exact .pure rfl
  | some c =>
    refine (unison_processEvent fair (used c bound) scope blind hint alike).bind ?_
    intro id id' same
    rw [isNil_of_seen same]
    cases id'.isNil with
    | true => exact .pure same
    | false => exact (calmly_remember pair _ _).bind fun _ _ _ => .pure same

/-! ### The hub in use -/

/-- The hub in use is one of the task. -/
def Homed (l l' : Locals ρ) (o o' : Option HubId) : Prop :=
  ∃ h h', o = some h ∧ o' = some h' ∧ Paired l l' h h'

/-- Two targets that are the same hub of a task, which is not being written to. -/
inductive Aimed (l l' : Locals ρ) (lock : Option HubId) : Target → Target → Prop
  | active : Aimed l l' lock .active .active
  | hub {h h' : HubId} (pair : Paired l l' h h') (free : lock ≠ some h) :
    Aimed l l' lock (.hub h) (.hub h')

theorem calmly_currentHub (home : Homed l l' o o') :
    Calmly g o o' lock l l' (Paired l l') currentHub currentHub := by
  obtain ⟨h, h', rfl, rfl, pair⟩ := home
  intro w w' linked
  have found {u : World} {i : HubId} (bound : u.thread.bound = some i) :
      currentHub u = (.done i, u) := by
    have read : thread u = (.done u.thread, u) := rfl
    refine (bind_done read).trans ?_
    rw [bound]
    rfl
  exact ⟨h, h', w, w', found linked.left.bound, found linked.right.bound, pair, linked⟩

theorem calmly_isActive (fair : g.Fair) (pair : Paired l l' h h') :
    Calmly g o o' lock l l' (fun a a' => a = a' ∧ (a = true → lock ≠ some h)) (isActive h)
      (isActive h') := by
  refine Lead.get.andThen fun w w' linked => .pure ?_
  obtain ⟨seen, fit, locked⟩ := linked.tie.hubs h h' pair
  have held : (w.hub h).locked = (w'.hub h').locked := (congrArg Hub.locked seen :)
  have client : (w.hub h).layers.top.client = (w'.hub h').layers.top.client :=
    (congrArg (fun x : Hub => x.layers.top.client) seen :)
  constructor
  · rw [held, ← client]
    cases bound : (w.hub h).layers.top.client with
    | none => rfl
    | some k =>
      have twin := linked.twin fair (fit.clients _ List.mem_cons_self k bound)
      have same : w.isEnabled k = w'.isEnabled k := by
        unfold World.isEnabled
        generalize w.clients[k]? = x at twin
        generalize w'.clients[k]? = x' at twin
        cases twin with
        | none => rfl
        | some twin => exact twin.frame.isEnabled
      rw [Option.any_some, Option.any_some, same]
  · intro active writing
    rw [locked.mpr writing] at active
    cases active

theorem calmly_find? (fair : g.Fair) (home : Homed l l' o o') {t t' : Target}
    (aim : Aimed l l' lock t t') :
    Calmly g o o' lock l l' (Option.Rel fun i i' => Paired l l' i i' ∧ lock ≠ some i) t.find?
      t'.find? := by
  cases aim with
  | active =>
    refine (calmly_currentHub home).andThen fun i i' pair => ?_
    refine (calmly_isActive fair pair).andThen fun a a' ⟨same, free⟩ => ?_
    subst same
    cases a with
    | false => exact .pure .none
    | true => exact .pure (.some ⟨pair, free rfl⟩)
  | hub pair free => exact .pure (.some ⟨pair, free⟩)

theorem calmly_resolve (home : Homed l l' o o') {t t' : Target} (aim : Aimed l l' lock t t') :
    Calmly g o o' lock l l' (Paired l l') t.resolve t'.resolve := by
  cases aim with
  | active => exact calmly_currentHub home
  | hub pair free => exact .pure pair

theorem unison_visit (fair : g.Fair) (home : Homed l l' o o') {t t' : Target}
    (aim : Aimed l l' lock t t') {R : α → β → Prop} {a : α} {b : β} (left : R a b)
    {f : HubId → Action α} {f' : HubId → Action β}
    (alike : ∀ i i', Paired l l' i i' → lock ≠ some i → Unison g o o' lock l l' R (f i) (f' i')) :
    Unison g o o' lock l l' R (t.visit a f) (t'.visit b f') := by
  refine (calmly_find? fair home aim).bind fun i i' found => ?_
  cases found with
  | none => exact .pure left
  | some both => exact alike _ _ both.1 both.2

theorem unison_captureOn (fair : g.Fair) (home : Homed l l' o o') {t t' : Target}
    (aim : Aimed l l' lock t t') {x x' : Occasion} (alike : x.seen g.view = x'.seen g.view) :
    Unison g o o' lock l l' (SeenId g) (captureOn t x) (captureOn t' x') := by
  have nil : SeenId g Uuid.nil Uuid.nil := rfl
  cases x with
  | event hint e =>
    cases x' with
    | event hint' e' =>
      obtain ⟨rfl, events⟩ := Occasion.event.inj alike
      exact unison_visit fair home aim nil fun i i' pair free =>
        unison_captureIn fair pair free hint events
    | message | error | checkIn => cases alike
  | message text level =>
    cases x' <;> cases alike
    refine unison_visit fair home aim nil fun i i' pair free => ?_
    refine calmly_blankEvent.bind fun e e' alike => ?_
    exact unison_captureIn fair pair free _
      (alike.edit (fun e => { e with message := some text, level }) fun _ => rfl)
  | error chain =>
    cases x' <;> cases alike
    refine unison_visit fair home aim nil fun i i' pair free => ?_
    refine (calmly_top pair free).bind fun y y' ⟨seen, _, _⟩ => ?_
    have client : y.client = y'.client := (congrArg Layer.client seen :)
    rw [client]
    split
    · exact .pure rfl
    · refine calmly_blankEvent.bind fun e e' alike => ?_
      exact unison_captureIn fair pair free _
        (alike.edit (fun e => Backtrace.errorEvent e chain) fun _ => rfl)
  | checkIn checkIn monitor =>
    cases x' <;> cases alike
    refine unison_visit fair home aim nil fun i i' pair free => ?_
    refine calmly_blankEvent.bind fun e e' alike => ?_
    refine (unison_captureIn fair pair free _ (alike.edit (fun e =>
      { e with
        kind := .checkIn, level := .info
        checkIn := some { checkIn with monitorConfig := monitor.or checkIn.monitorConfig } })
      fun _ => rfl)).bind fun id id' same => .pure ?_
    rw [isNil_of_seen same]

/-! ### Panics -/

theorem calmly_flush (fair : g.Fair) (pair : Paired l l' h h') (free : lock ≠ some h) :
    Calmly g o o' lock l l' (fun _ _ => True) (flush (.hub h)) (flush (.hub h')) := by
  refine (calmly_top pair free).andThen fun x x' ⟨seen, used, _⟩ => ?_
  have client : x.client = x'.client := (congrArg Layer.client seen :)
  rw [← client]
  cases bound : x.client with
  | none => exact .pure trivial
  | some k => exact calmly_flushClient fair (used k bound)

theorem Event.rel_findSome? {v : View} {fs : List (String → Event → Option Event)} {m : String}
    (blind : ∀ f ∈ fs, Event.Blind v (f m)) {e e' : Event} (alike : e.Alike v e') :
    Option.Rel (Event.Alike v) (fs.findSome? fun f => f m e) (fs.findSome? fun f => f m e') := by
  induction fs with
  | nil => exact .none
  | cons f fs ih =>
    have first := (blind f List.mem_cons_self).rel alike
    rw [List.findSome?_cons, List.findSome?_cons]
    generalize f m e = x at first
    generalize f m e' = x' at first
    cases first with
    | some made => exact .some made
    | none => exact ih fun f hf => blind f (List.mem_cons_of_mem _ hf)

theorem unison_noticePanic (fair : g.Fair) (home : Homed l l' o o') (p : Payload) :
    Unison g o o' lock l l' Eq (noticePanic p) (noticePanic p) := by
  refine unison_visit fair home .active rfl fun i i' pair free => ?_
  refine (calmly_top pair free).bind fun x x' ⟨seen, used, _⟩ => ?_
  have client : x.client = x'.client := (congrArg Layer.client seen :)
  rw [← client]
  cases bound : x.client with
  | none => exact .pure rfl
  | some k =>
    refine (calmly_client? fair (used k bound)).bind fun c c' twin => ?_
    cases twin with
    | none => exact .pure rfl
    | @some c c' twin =>
      have extractors : c'.panicExtractors? = c.panicExtractors? := by
        rw [Client.panicExtractors?, ← twin.frame.integrations, Client.panicExtractors?]
      rw [Option.bind_some, Option.bind_some, extractors]
      cases installed : c.panicExtractors? with
      | none => exact .pure rfl
      | some fs =>
        refine Lead.get.bind fun w w' linked => ?_
        rw [(linked.alike fair).stack]
        refine (calmly_isInsideBoundary fair).bind fun a a' same => ?_
        subst same
        cases a with
        | true =>
          refine (calmly_tell _ _).bind fun _ _ _ => Lead.toMatch ?_
          unfold stashStack
          exact calmly_editThread (fun _ => ⟨rfl, rfl⟩) fun _ => ⟨rfl, rfl⟩
        | false =>
          refine (calmly_tell _ _).bind fun _ _ _ => ?_
          refine calmly_blankEvent.bind fun e e' alike => ?_
          have event : Event.Alike g.view
              ((fs.findSome? fun f => f p.message e).getD
                (Backtrace.panicEvent e p.message w'.stack))
              ((fs.findSome? fun f => f p.message e').getD
                (Backtrace.panicEvent e' p.message w'.stack)) := by
            have extracted := Event.rel_findSome? (m := p.message)
              (fun f hf => twin.blind.extractors fs installed f hf p.message) alike
            generalize (fs.findSome? fun f => f p.message e) = x at extracted
            generalize (fs.findSome? fun f => f p.message e') = x' at extracted
            cases extracted with
            | some made => exact made
            | none =>
              exact alike.edit (fun e => Backtrace.panicEvent e p.message w'.stack) fun _ => rfl
          refine (unison_captureIn fair pair free _ event).bind fun _ _ _ => ?_
          refine (calmly_tell _ _).bind fun _ _ _ => ?_
          exact (calmly_flush fair pair free).bind fun _ _ _ => .pure rfl

theorem unison_panic (fair : g.Fair) (home : Homed l l' o o') (p : Payload) {R : α → β → Prop} :
    Unison g o o' lock l l' R (panic p) (panic p) := by
  refine Lead.get.bind fun w w' linked => ?_
  rw [(linked.alike fair).hooked]
  cases w'.hooked with
  | false => exact .unwind p
  | true => exact (unison_noticePanic fair home p).bind fun _ _ _ => .unwind p

end Action

end Telemetry
