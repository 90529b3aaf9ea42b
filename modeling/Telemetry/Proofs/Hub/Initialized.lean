import Telemetry.Init
import Telemetry.Proofs.Client.Configuration
import Telemetry.Proofs.Client.Frame
import Telemetry.Proofs.Hub.Passing
import Telemetry.Proofs.Url.Host
import Telemetry.Recover

/-! Initializing the library. The hub in use gets a client of the options with their defaults, in
which everything that the program set is in force. An event meets the callbacks of the program in it,
in their order; and a panic outside of boundaries is reported with what the extractors of the program
make of it, unless their integration made way for the one that is there by default. -/

namespace Telemetry

namespace Action

variable {α : Type} {h : HubId} {k : ClientId} {c : Client} {w w' : World}

/-! ### The start -/

/-- Whoever asks for the hub in use again gets the same. -/
theorem inUse?_currentHub (entered : currentHub w = (.done h, w')) : w'.inUse? = some h := by
  cases used : w.inUse? with
  | some i =>
    cases (currentHub_eq used).symm.trans entered
    exact used
  | none =>
    rw [currentHub_none used] at entered
    cases locked : (w.hub w.main).locked with
    | true => cases (bind_blocked (bind_blocked (top_locked locked))).symm.trans entered
    | false =>
      cases (bind_done (forkHub_eq locked)).symm.trans entered
      obtain ⟨bound, unbound⟩ := Option.or_eq_none_iff.mp used
      cases owns : w.thread.ownsMain with
      | true => simp [owns] at unbound
      | false =>
        show (w.thread.bound.or (if w.thread.ownsMain then _ else _)) = _
        rw [bound, owns, Option.none_or, if_neg Bool.false_ne_true]

theorem newClient_eq [PatternLanguage] {o : ClientOptions} {ds : List Diagnostic}
    (made : Client.create o = .ok (c, ds)) (entered : currentHub w = (.done h, w')) :
    newClient o w = (.done (.ok w'.clients.length),
      { w' with
        clients := w'.clients ++ [c]
        hooked := c.panicExtractors?.isSome || w'.hooked
        thread := { w'.thread with log := w'.thread.log ++ ds } }) := by
  have seen : discard currentHub w = (.done (), w') := bind_done (f := fun _ => pure ()) entered
  unfold newClient
  rw [made]
  refine (bind_done seen).trans ?_
  cases c.panicExtractors?.isSome <;> rfl

theorem bindClient_eq (unlocked : (w.hub h).locked = false) (id : Option ClientId) :
    bindClient h id w = (.done (), w.editHub h fun hub =>
      { hub with layers :=
        { (w.hub h).layers with top := { (w.hub h).layers.top with client := id } } }) :=
  editLayers_eq unlocked _

/-- A client is the one of the hub in use. Its workers may have gone on. -/
structure Installed (h : HubId) (k : ClientId) (c : Client) (w : World) : Prop where
  current : w.inUse? = some h
  unlocked : (w.hub h).locked = false
  top : (w.hub h).layers.top.client = some k
  client : ∃ c', w.clients[k]? = some c' ∧ c.SameFrame c'
  hooked : c.panicExtractors?.isSome = true → w.hooked = true

theorem init_installs [Host.Names] [PatternLanguage] {o : ClientOptions} {env : Environment}
    {ds : List Diagnostic}
    (made : Client.create (o.withDefaults env) = .ok (c, ds)) (entered : currentHub w = (.done h, w'))
    (inside : h < w'.hubs.length) (unlocked : (w'.hub h).locked = false) :
    ∃ k w₂, InitGuard.new env o w = (.done (.ok ⟨k⟩), w₂) ∧ w₂.clients[k]? = some c ∧
      Installed h k c w₂ := by
  let k := w'.clients.length
  let w₁ : World :=
    { w' with
      clients := w'.clients ++ [c]
      hooked := c.panicExtractors?.isSome || w'.hooked
      thread := { w'.thread with log := w'.thread.log ++ ds } }
  let bound (hub : Hub) : Hub :=
    { hub with layers :=
      { (w'.hub h).layers with top := { (w'.hub h).layers.top with client := some k } } }
  let w₂ := w₁.editHub h bound
  have free : (w₁.hub h).locked = false := unlocked
  have current : w₁.inUse? = some h := by
    show w'.inUse? = some h
    exact inUse?_currentHub entered
  have hub : w₂.hub h = bound (w'.hub h) := World.hub_editHub_self inside bound
  have there : w₂.clients[k]? = some c := List.getElem?_concat_length
  have asked : client? k w₂ = (.done (some c), w₂) := by rw [client?_eq, there]
  have installed (ds : List Diagnostic) :
      Installed h k c { w₂ with thread := { w₂.thread with log := w₂.thread.log ++ ds } } := by
    refine ⟨current, ?_, ?_, ⟨c, there, .refl c⟩, ?_⟩
    · show (w₂.hub h).locked = false
      rw [hub]
      exact unlocked
    · show (w₂.hub h).layers.top.client = some k
      rw [hub]
    · intro some
      show (c.panicExtractors?.isSome || w'.hooked) = true
      rw [some, Bool.true_or]
  -- the hub in use is looked up once more before it gets the client
  have started : InitGuard.new env o w = _ :=
    (bind_done (newClient_eq made entered)).trans ((bind_done (currentHub_eq current)).trans
      ((bind_done (bindClient_eq free (some k))).trans (bind_done asked)))
  rw [started]
  cases dsn : c.options.dsn with
  | none =>
    simp only [Option.bind_some, dsn]
    exact ⟨k, _, rfl, there, installed _⟩
  | some d =>
    simp only [Option.bind_some, dsn]
    exact ⟨k, _, rfl, there, installed _⟩

/-! ### The way of an event -/

/-- The last callback of the options for a kind of event. -/
def lastCallback (s : Settings) : EventKind → Option (Event → EventHint → Option Event)
  | .default => s.beforeSend
  | .transaction => s.beforeSendTransaction
  | .checkIn => none

/-- The callbacks that an event meets: the processors of its scope, the integrations of which each is
the first of its name, and the last callback for its kind. -/
def callbacks (is : List Integration) (s : Settings) (scope : Option Scope) (kind : EventKind) :
    List Client.Callback :=
  (List.range ((scope.map Scope.processors).getD []).length).map .processor ++
    (List.range (Client.distinct is).length).map .integration ++
    ((lastCallback s kind).map fun _ => .last kind).toList

theorem passage_order {is : List Integration} (members : c.integrations = Client.distinct is)
    (scope : Option Scope) (hint : EventHint) (kind : EventKind) :
    (passage k c scope hint).order kind = callbacks is c.options.toSettings scope kind := by
  have processors : (passage k c scope hint).processors.length =
      ((scope.map Scope.processors).getD []).length := by
    cases scope with
    | none => rfl
    | some scope => exact List.length_map _
  have integrations : (passage k c scope hint).integrations.length =
      (Client.distinct is).length := by
    rw [← members]
    exact List.length_map _
  have one (f : Option (Event → EventHint → Option Event)) :
      ((f.map (Client.lastStage (m := Action) hint)).toList.map fun _ =>
        Client.Callback.last kind) = (f.map fun _ => .last kind).toList := by cases f <;> rfl
  have last : (passage k c scope hint).lastName kind =
      ((lastCallback c.options.toSettings kind).map fun _ => .last kind).toList := by
    cases kind with
    | default => exact one c.options.beforeSend
    | transaction => exact one c.options.beforeSendTransaction
    | checkIn => rfl
  rw [Client.Passage.order, Client.Passage.early, processors, integrations, last, callbacks]

/-- In a client of options, whatever it has done since, an event meets the processors of its scope,
the integrations of the options and the callback for its kind, in this order, each with what the one
before it passed on. -/
theorem passage_orderly [PatternLanguage] {o : ClientOptions} {c₀ : Client} {ds : List Diagnostic}
    (made : Client.create o = .ok (c₀, ds)) (since : c₀.SameFrame c) (scope : Option Scope)
    (hint : EventHint) (stack : Option Stacktrace) (traces : Traces) (e : Event) (w : World) :
    let x := passage k c scope hint
    ∃ seen, c.process x.watched stack traces scope e (w, .empty) =
        ((c.process x stack traces scope e w).1, (c.process x stack traces scope e w).2, seen) ∧
      ∃ e' kind left, Client.Identified e e' ∧
        Client.Orderly c x (c.fillIn stack traces scope e') kind left seen ∧
        seen.calls.map Client.Call.callback <+:
          callbacks o.integrations c₀.options.toSettings scope kind := by
  intro x
  have members : c.integrations = Client.distinct o.integrations :=
    since.integrations.symm.trans (Client.madeOf_create made).integrations
  obtain ⟨seen, watched, e', kind, left, identified, orderly⟩ :=
    Client.process_sees x stack traces scope c e w
  refine ⟨seen, watched, e', kind, left, identified, orderly, ?_⟩
  rw [since.options, ← passage_order members scope hint kind]
  exact orderly.order

/-! ### Panics -/

/-- The report of a panic by an event. -/
def reportPanic (h : HubId) (p : Payload) (e : Event) : Action Unit := do
  let id ← captureIn h (.ofPanic p.message) e
  debug ("[PanicIntegration] Captured panic as " ++ id.hyphenated ++ ", flushing")
  discard <| flush (.hub h)

/-- The event of a panic: what the first extractor makes of it that has one, or a plain one. -/
def panicReport (extractors : List (String → Event → Option Event)) (p : Payload) (w : World) :
    Event :=
  let blank := (Event.fresh w.fresh).1
  (extractors.findSome? fun f => f p.message blank).getD
    (Backtrace.panicEvent blank p.message w.stack)

/-- The world in which a panic was noticed and its report begun. -/
def afterNotice (p : Payload) (w : World) : World :=
  { w with
    fresh := (Event.fresh w.fresh).2
    thread := { w.thread with
      log := w.thread.log ++ [.debug ("[PanicIntegration] Panic detected: " ++ p.message)] } }

theorem panic_outside (installed : Installed h k c w) (enabled : c.isEnabled = true)
    {extractors : List (String → Event → Option Event)}
    (integrated : c.panicExtractors? = some extractors) (outside : w.thread.boundaries = 0)
    (p : Payload) :
    (panic p : Action α) w =
      (reportPanic h p (panicReport extractors p w) >>= fun _ => Run.unwind p) (afterNotice p w) := by
  let w₁ : World :=
    { w with
      thread := { w.thread with
        log := w.thread.log ++ [.debug ("[PanicIntegration] Panic detected: " ++ p.message)] } }
  obtain ⟨c', there, same⟩ := installed.client
  have active : (!(w.hub h).locked && (w.hub h).layers.top.client.any w.isEnabled) = true := by
    rw [installed.unlocked, installed.top, Option.any_some, World.isEnabled, there]
    exact same.isEnabled.symm.trans enabled
  have known : c'.panicExtractors? = some extractors := by
    rw [← integrated, Client.panicExtractors?, Client.panicExtractors?, same.integrations]
  have got : (Run.get : Action World) w = (.done w, w) := rfl
  have found : (some k).bindM client? w = (.done w.clients[k]?, w) := rfl
  have deep : isInsideBoundary w = (.done (decide (0 < w.thread.boundaries)), w) := rfl
  have told : debug ("[PanicIntegration] Panic detected: " ++ p.message) w = (.done (), w₁) := rfl
  have drawn : blankEvent w₁ = (.done (Event.fresh w.fresh).1, afterNotice p w) := rfl
  have noticed : noticePanic p w =
      reportPanic h p (panicReport extractors p w) (afterNotice p w) := by
    unfold noticePanic
    rw [visit_active installed.current, if_pos active, bind_done (top_eq installed.unlocked),
      installed.top, bind_done found, there, Option.bind_some, known]
    refine (bind_done got).trans ((bind_done deep).trans ?_)
    rw [outside]
    exact (bind_done told).trans (bind_done drawn)
  have hooked : w.hooked = true := installed.hooked (by rw [integrated]; rfl)
  have entered : (panic p : Action α) w = _ := bind_done got
  rw [entered, if_pos hooked]
  show Run.bind _ _ w = Run.bind _ _ _
  unfold Run.bind
  rw [noticed]

/-- The library is initialized with options that are in order, in any environment. The hub in use gets
a client in which what the program set is in force, unless an integration changed it. The first of
the program's integrations of each name is part of that client, unless it has to make way for the one
that is there by default. And as long as the client is in use, the extractors of the program are
asked for the event of a panic outside of boundaries, if their integration is part of the client. -/
theorem init_in_force [Host.Names] [PatternLanguage] {o : ClientOptions}
    (valid : o.validate = .ok ())
    (genuine : ∀ i ∈ o.integrations, Client.Genuine i) (env : Environment)
    (entered : currentHub w = (.done h, w')) (inside : h < w'.hubs.length)
    (unlocked : (w'.hub h).locked = false) :
    ∃ k c w₂, InitGuard.new env o w = (.done (.ok ⟨k⟩), w₂) ∧ w₂.clients[k]? = some c ∧
      Installed h k c w₂ ∧ c.Explicit o env ∧
      ∀ before i after, o.integrations = before ++ i :: after → (∀ j ∈ before, j.name ≠ i.name) →
        (Client.HasPart i (o.withDefaults env).toSettings c ↔ ¬ Client.Displaced o i) ∧
        ∀ extractors, i = panicIntegration extractors → ¬ Client.Displaced o i →
          ∀ (v : World) (p : Payload), Installed h k c v → c.isEnabled = true →
            v.thread.boundaries = 0 →
            (panic p : Action Unit) v =
              (reportPanic h p (panicReport extractors p v) >>= fun _ => Run.unwind p)
                (afterNotice p v) := by
  have filled : (o.withDefaults env).validate = .ok () := valid
  obtain ⟨c, ds, made⟩ := Client.create_valid filled
  have parts := Client.madeOf_create made
  obtain ⟨k, w₂, started, there, installed⟩ := init_installs made entered inside unlocked
  refine ⟨k, c, w₂, started, there, installed, Client.explicit_of_madeOf parts, ?_⟩
  intro before i after split first
  have takesPart := Client.hasPart_iff parts split first
  refine ⟨takesPart, ?_⟩
  rintro extractors rfl stays v p installed enabled outside
  obtain ⟨front, back, members, -, -⟩ := takesPart.mpr stays
  have member : panicIntegration extractors ∈ c.integrations := by
    rw [members]
    exact List.mem_append_right _ List.mem_cons_self
  have all : ∀ j ∈ c.integrations, Client.Genuine j := by
    intro j hj
    rw [parts.integrations] at hj
    rcases Client.mem_withDefaults (Client.mem_of_mem_distinct hj) with rfl | own
    · rintro _ ⟨⟩
      rfl
    · exact genuine j own
  have integrated := Client.panicExtractors?_of_mem (Client.create_names made) all member
  exact panic_outside installed enabled integrated outside p

def boom : String → Event → Option Event := fun message e => some { e with message := some message }

/-- A thread in the only hub of a world. -/
def home : World :=
  { World.single (.plain Settings.default) Client.asleep with
    thread := { ThreadState.new with bound := some 0 } }

/-- A release, and an extractor that takes part, without the defaults. -/
theorem init_in_force_alone :
    letI : Host.Names := .ascii
    letI : PatternLanguage := .words
    let o : ClientOptions :=
      { Settings.default with
        release := some "1.0", defaultIntegrations := false
        integrations := [panicIntegration [boom]] }
    o.validate = .ok () ∧ ∃ k c w, InitGuard.new (fun _ => none) o home = (.done (.ok ⟨k⟩), w) ∧
      w.clients[k]? = some c ∧ c.Explicit o (fun _ => none) ∧
      Client.HasPart (panicIntegration [boom]) (o.withDefaults fun _ => none).toSettings c := by
  let := Host.Names.ascii
  let := PatternLanguage.words
  intro o
  have valid : o.validate = .ok () := Client.validate_plain rfl rfl rfl rfl
  have genuine : ∀ i ∈ o.integrations, Client.Genuine i := by
    intro i member
    obtain rfl := List.mem_singleton.mp member
    rintro _ ⟨⟩
    rfl
  obtain ⟨k, c, w, started, there, -, explicit, parts⟩ :=
    init_in_force (w := home) (h := 0) valid genuine (fun _ => none) rfl (by decide) rfl
  have takesPart := (parts [] _ [] rfl nofun).1
  exact ⟨valid, k, c, w, started, there, explicit, takesPart.mpr (by rintro ⟨⟨⟩, -⟩)⟩

/-- With the defaults the extractor is not part of the client, and nobody asks it. -/
theorem default_displaces_extractors :
    letI : Host.Names := .ascii
    letI : PatternLanguage := .words
    let o : ClientOptions :=
      { Settings.default with integrations := [panicIntegration [boom]] }
    o.validate = .ok () ∧ ∃ k c w, InitGuard.new (fun _ => none) o home = (.done (.ok ⟨k⟩), w) ∧
      w.clients[k]? = some c ∧ c.panicExtractors?.map List.length = some 0 ∧
      ¬ Client.HasPart (panicIntegration [boom]) (o.withDefaults fun _ => none).toSettings c := by
  let := Host.Names.ascii
  let := PatternLanguage.words
  intro o
  have valid : o.validate = .ok () := Client.validate_plain rfl rfl rfl rfl
  have filled : (o.withDefaults fun _ => none).validate = .ok () := valid
  obtain ⟨c, ds, made⟩ := Client.create_valid filled
  have parts := Client.madeOf_create made
  obtain ⟨k, w, started, there, -⟩ :=
    init_installs (w := home) (h := 0) made rfl (by decide) rfl
  have displaced : Client.Displaced o (panicIntegration [boom]) :=
    ⟨rfl, rfl, fun same => nomatch congrArg Integration.kind same⟩
  have split : o.integrations = [] ++ panicIntegration [boom] :: [] := rfl
  have takesPart := Client.hasPart_iff parts split nofun
  refine ⟨valid, k, c, w, started, there, ?_, fun part => takesPart.mp part displaced⟩
  rw [Client.panicExtractors?, parts.integrations]
  rfl

end Action

end Telemetry
