import Telemetry.Proofs.Client.Filling
import Telemetry.Proofs.Client.Frame
import Telemetry.Run

/-! Check-ins and the settings of a client that are about errors and transactions. The way of a
check-in through the client is the same whatever they are, as long as no callback makes something
else of it. -/

namespace Telemetry

/-- The settings that keep errors and transactions back or add to them. -/
structure Filters where
  sampleRate : Float32
  tracesSampleRate : Float32
  tracesSampler : Option (TransactionContext → Float32)
  ignoreErrors : List String
  ignoreTransactions : List String
  patterns : IgnorePatterns
  beforeSend : Option (Event → EventHint → Option Event)
  beforeSendTransaction : Option (Event → EventHint → Option Event)
  attachStacktrace : Bool

def Settings.refilter (x : Filters) (s : Settings) : Settings :=
  { s with
    sampleRate := x.sampleRate
    tracesSampleRate := x.tracesSampleRate
    tracesSampler := x.tracesSampler
    ignoreErrors := x.ignoreErrors
    ignoreTransactions := x.ignoreTransactions
    beforeSend := x.beforeSend
    beforeSendTransaction := x.beforeSendTransaction
    attachStacktrace := x.attachStacktrace }

/-- An integration that makes the same of an event whatever the filters are. -/
def Integration.Deaf (i : Integration) : Prop :=
  ∀ x s e, i.process (Settings.refilter x s) e = i.process s e

/-- A callback that makes nothing else of a check-in. -/
def Event.KeepsCheckIns (f : Event → Option Event) : Prop :=
  ∀ e e', e.kind = .checkIn → f e = some e' → e'.kind = .checkIn

namespace Stage

/-- A callback, and why an event goes no further that it drops. -/
abbrev Hook := (Uuid → EventDrop) × (Event → Option Event)

variable {hooks : List Hook} {e : Event}

/-- What hooks leave of an event. -/
def offerAll (hooks : List Hook) (e : Event) : Except EventDrop Event :=
  hooks.foldlM (fun e hook =>
    match hook.2 e with
    | some e' => .ok e'
    | none => .error (hook.1 e.id)) e

theorem askAll_hooks {σ : Type} (hooks : List Hook) (e : Event) :
    askAll (hooks.map fun hook => ofFunction hook.1 hook.2) e =
      ExceptT.mk (pure (offerAll hooks e) : Run σ (Except EventDrop Event)) := by
  induction hooks generalizing e with
  | nil => rfl
  | cons hook hooks ih =>
    show (match hook.2 e with
      | some e' => askAll _ e'
      | none => throw (hook.1 e.id) : ExceptT EventDrop (Run σ) Event) = _
    rw [offerAll, List.foldlM_cons]
    cases hook.2 e with
    | none => rfl
    | some e' => exact ih e'

theorem kind_offerAll (keeps : ∀ hook ∈ hooks, Event.KeepsCheckIns hook.2)
    (kind : e.kind = .checkIn) {e' : Event} (left : offerAll hooks e = .ok e') :
    e'.kind = .checkIn := by
  induction hooks generalizing e with
  | nil =>
    cases left
    exact kind
  | cons hook hooks ih =>
    rw [offerAll, List.foldlM_cons] at left
    cases made : hook.2 e with
    | none =>
      rw [made] at left
      cases left
    | some e₁ =>
      rw [made] at left
      exact ih (fun next there => keeps next (List.mem_cons_of_mem _ there))
        (keeps hook List.mem_cons_self e e₁ kind made) left

end Stage

def Scope.hooks (s : Scope) : List Stage.Hook :=
  s.processors.map fun f => (.processor, f)

namespace Client

variable {x : Filters} {c : Client} {e : Event}

def refilter (x : Filters) (c : Client) : Client :=
  { c with
    options := { c.options with toSettings := c.options.toSettings.refilter x }
    patterns := x.patterns }

/-! ### What does not depend on filters -/

theorem current?_refilter (x : Filters) (c : Client) : (c.refilter x).current? = c.current? := rfl

theorem send_refilter (x : Filters) (now : Instant) (pace : Emitter.Pace) (e : Envelope)
    (c : Client) : (c.refilter x).send now pace e =
      { c.send now pace e with client := (c.send now pace e).client.refilter x } := by
  rw [send, send, current?_refilter]
  cases c.current? <;> rfl

theorem handOn_refilter (x : Filters) (now : Instant) (pace : Emitter.Pace) (is : List Item)
    (c : Client) : (c.refilter x).handOn now pace is = (c.handOn now pace is).refilter x := by
  induction is generalizing c pace with
  | nil => rfl
  | cons i is ih => rw [handOn, send_refilter, ih, handOn]

theorem turn_refilter (x : Filters) (now : Instant) (pace : Emitter.Pace) (c : Client) :
    (c.refilter x).turn now pace = (c.turn now pace).refilter x := by
  have logs (l : Option (Emitter Log)) :
      ({ c.refilter x with logs := l } : Client) = refilter x { c with logs := l } := rfl
  have metrics (c : Client) (m : Option (Emitter Metric)) :
      ({ c.refilter x with metrics := m } : Client) = refilter x { c with metrics := m } := rfl
  -- each edit of an emitter goes past the filters, up to the next envelopes that are handed on
  unfold turn
  simp only [logs, handOn_refilter, metrics]
  rfl

/-! ### Check-ins -/

theorem fillIn_refilter (kind : e.kind = .checkIn) (stack : Option Stacktrace) (traces : Traces)
    (scope : Option Scope) :
    (c.refilter x).fillIn stack traces scope e = c.fillIn stack traces scope e := by
  have completed : (c.refilter x).complete stack e = c.complete stack e := by
    simp [complete, refilter, Settings.refilter, kind]
  unfold fillIn
  rw [completed]

theorem kind_fillIn (kind : e.kind = .checkIn) (stack : Option Stacktrace) (traces : Traces)
    (scope : Option Scope) : (c.fillIn stack traces scope e).kind = .checkIn :=
  (Event.sameCore_fillIn traces e c stack scope).kind.trans kind

def hooks (c : Client) : List Stage.Hook :=
  c.integrations.map fun i => (.integration i.name, i.process c.options.toSettings)

theorem hooks_refilter (deaf : ∀ i ∈ c.integrations, i.Deaf) (x : Filters) :
    (c.refilter x).hooks = c.hooks :=
  List.map_congr_left fun i hi =>
    congrArg (Prod.mk _) (funext fun e => deaf i hi x c.options.toSettings e)

theorem finish_checkIn {σ : Type} (k : Passage (Run σ)) (c : Client) (kind : e.kind = .checkIn) :
    c.finish k e = pure e := by
  simp only [finish, ignore, ignoredBy?, sample, Passage.last, kind]
  rfl

/-- The callbacks that a check-in meets in a client and under a scope make nothing else of it, and
what they make of it does not depend on filters. -/
structure LeavesCheckIns (scope : Scope) (c : Client) : Prop where
  processors : ∀ f ∈ scope.processors, Event.KeepsCheckIns f
  integrations : ∀ i ∈ c.integrations, Event.KeepsCheckIns (i.process c.options.toSettings)
  deaf : ∀ i ∈ c.integrations, i.Deaf

theorem LeavesCheckIns.refilter {scope : Scope} (leaves : LeavesCheckIns scope c) (x : Filters) :
    LeavesCheckIns scope (c.refilter x) where
  processors := leaves.processors
  integrations i hi e e' kind left :=
    leaves.integrations i hi e e' kind ((leaves.deaf i hi x _ e).symm.trans left)
  deaf := leaves.deaf

theorem LeavesCheckIns.sameFrame {scope : Scope} {c' : Client} (leaves : LeavesCheckIns scope c)
    (same : SameFrame c c') : LeavesCheckIns scope c' where
  processors := leaves.processors
  integrations := by
    rw [← same.integrations, ← same.options]
    exact leaves.integrations
  deaf := by
    rw [← same.integrations]
    exact leaves.deaf

/-- What the callbacks leave of a check-in that a client has filled in. -/
def passOn (scope : Scope) (c : Client) (e : Event) : Except EventDrop Event := do
  Stage.offerAll c.hooks (← Stage.offerAll scope.hooks e)

theorem passOn_refilter (deaf : ∀ i ∈ c.integrations, i.Deaf) (scope : Scope) (x : Filters)
    (e : Event) : (c.refilter x).passOn scope e = c.passOn scope e := by
  rw [passOn, hooks_refilter deaf, passOn]

theorem prepare_checkIn {σ : Type} {scope : Scope} (leaves : LeavesCheckIns scope c)
    {k : Passage (Run σ)} (processors : k.processors = scope.stages)
    (integrations : k.integrations = c.stages) (kind : e.kind = .checkIn)
    (named : e.id.isNil = false) (stack : Option Stacktrace) (traces : Traces) :
    (c.prepare k stack traces (some scope) e).run =
      (pure (c.passOn scope (c.fillIn stack traces (some scope) e)) :
        Run σ (Except EventDrop Event)) := by
  have filled := kind_fillIn (c := c) kind stack traces (some scope)
  -- the event has an identifier, so nothing is drawn on its way
  have unnamed : identify k.uuid e = pure e := by
    unfold identify
    simp only [named]
    rfl
  have begun : (c.prepare k stack traces (some scope) e).run =
      (Stage.askAll k.processors (c.fillIn stack traces (some scope) e) >>= fun e =>
        Stage.askAll k.integrations e >>= c.finish k).run := by
    unfold prepare
    rw [unnamed]
    rfl
  have first : k.processors = scope.hooks.map fun hook => .ofFunction hook.1 hook.2 := by
    rw [processors, Scope.hooks, List.map_map]
    rfl
  have second : k.integrations = c.hooks.map fun hook => .ofFunction hook.1 hook.2 := by
    rw [integrations, hooks, List.map_map]
    rfl
  rw [begun, first, second, Stage.askAll_hooks, passOn]
  generalize c.fillIn stack traces (some scope) e = e at filled
  cases left : Stage.offerAll scope.hooks e with
  | error d => rfl
  | ok e₁ =>
    have kind₁ :=
      Stage.kind_offerAll (List.forall_mem_map.mpr leaves.processors) filled left
    show (Stage.askAll _ e₁ >>= c.finish k).run = pure (Stage.offerAll c.hooks e₁)
    rw [Stage.askAll_hooks]
    cases left₁ : Stage.offerAll c.hooks e₁ with
    | error d => rfl
    | ok e₂ =>
      show (c.finish k e₂).run = _
      have kind₂ := Stage.kind_offerAll (List.forall_mem_map.mpr leaves.integrations) kind₁ left₁
      rw [finish_checkIn k c kind₂]
      rfl

end Client

end Telemetry
