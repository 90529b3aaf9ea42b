import Mathlib.Logic.Function.Basic
import Telemetry.Hub.Scopes
import Telemetry.Hub.Switch
import Telemetry.Proofs.Hub.Identifier
import Telemetry.Proofs.Hub.View

/-! Tasks that take turns on one thread. Each is bound to a hub of its own, and whenever it is polled
its code runs in that hub, from the start; what it goes on with it finds among what it keeps. The code
uses its own hubs, which it may add to, and the hub in use; it may panic at any point. -/

namespace Telemetry

/-- A hub as code names it: the one in use, or one of its own by its place among them. -/
inductive Place where
  | active
  | own (i : Nat)

/-- What code does when it is polled. Callbacks that edit a scope or make breadcrumbs may panic at
their end. -/
inductive Code (ρ : Type) where
  | stop
  | panic (p : Payload)
  /-- Panics with something that was caught before. -/
  | panicAgain (p : Payload)
  /-- Reads what was kept. -/
  | read (next : ρ → Code ρ)
  | keep (r : ρ) (next : Code ρ)
  | configure (t : Place) (edit : Scope → Scope) (fails : Option Payload) (next : Code ρ)
  | push (t : Place) (next : Code ρ)
  /-- Drops the guard of a layer, by its place among all guards so far. -/
  | drop (i : Nat) (next : Code ρ)
  | pop (t : Place) (next : Code ρ)
  | withScope (t : Place) (edit : Scope → Scope) (fails : Option Payload) (body next : Code ρ)
  /-- Adds breadcrumbs that are made of the current time. -/
  | addBreadcrumbs (t : Place) (make : Instant → List Breadcrumb) (fails : Option Payload)
      (next : Code ρ)
  /-- Captures what is made of a blank event. -/
  | capture (t : Place) (make : Event → Occasion) (next : Uuid → Code ρ)
  /-- Makes a hub of its own out of the top layer of another one. -/
  | fork (t : Place) (next : Code ρ)
  | run (i : Nat) (body next : Code ρ)
  /-- Stops a panic. -/
  | attempt (body : Code ρ) (next : Option Payload → Code ρ)

/-- What belongs to a task alone. -/
structure Locals (ρ : Type) where
  /-- The hubs of the task, the one it is bound to first. -/
  hubs : List HubId
  guards : List ScopeGuard
  kept : ρ

namespace Locals

variable {ρ : Type}

def target (l : Locals ρ) : Place → Target
  | .active => .active
  | .own i =>
    match l.hubs[i]? with
    | some h => .hub h
    | none => .active

end Locals

namespace Code

open Telemetry.Action

variable {ρ α : Type}

def locals : Program (Locals ρ) (Locals ρ) := do return (← Run.get).2

def editLocals (f : Locals ρ → Locals ρ) : Program (Locals ρ) Unit :=
  Run.modify fun s => (s.1, f s.2)

/-- What a callback does last. -/
def orPanic (fails : Option Payload) (a : α) : Action α :=
  match fails with
  | some p => Action.panic p
  | none => pure a

def editOrPanic (edit : Scope → Scope) (fails : Option Payload) (h : HubId) :
    Program (Locals ρ) Unit :=
  Run.onFirst do
    editScope h edit
    orPanic fails ()

def forkOwn (t : Place) : Program (Locals ρ) Unit := do
  let l ← locals
  let h ← (do forkHub (← (l.target t).resolve) : Action HubId)
  editLocals fun l => { l with hubs := l.hubs ++ [h] }

def exec : Code ρ → Program (Locals ρ) Unit
  | .stop => pure ()
  | .panic p => Run.onFirst (Action.panic p)
  | .panicAgain p => Run.onFirst (Action.panicAgain p)
  | .read next => do exec (next (← locals).kept)
  | .keep r next => do
    editLocals fun l => { l with kept := r }
    exec next
  | .configure t edit fails next => do
    let l ← locals
    discard <| Program.configureScope (l.target t) (editOrPanic edit fails)
    exec next
  | .push t next => do
    let l ← locals
    let guard ← (do pushScope (← (l.target t).resolve) : Action ScopeGuard)
    editLocals fun l => { l with guards := l.guards ++ [guard] }
    exec next
  | .drop i next => do
    let l ← locals
    if let some guard := l.guards[i]? then (guard.drop : Action Unit)
    exec next
  | .pop t next => do
    let l ← locals
    (do popScope (← (l.target t).resolve) : Action Unit)
    exec next
  | .withScope t edit fails body next => do
    let l ← locals
    Program.withScope (l.target t) (editOrPanic edit fails) (exec body)
    exec next
  | .addBreadcrumbs t make fails next => do
    let l ← locals
    Program.addBreadcrumbs (l.target t) (Run.onFirst do orPanic fails (make (← now)))
    exec next
  | .capture t make next => do
    let l ← locals
    let id ← (do captureOn (l.target t) (make (← blankEvent)) : Action Uuid)
    exec (next id)
  | .fork t next => do
    forkOwn t
    exec next
  | .run i body next => do
    let l ← locals
    match l.hubs[i]? with
    | some h => Program.runIn h (exec body)
    | none => exec body
    exec next
  | .attempt body next => do
    match ← Run.attempt (exec body) with
    | .ok _ => exec (next none)
    | .error p => exec (next (some p))

/-- Code that makes nothing of what a view hides. -/
def Blind (v : View) : Code ρ → Prop
  | .stop => True
  | .panic _ => True
  | .panicAgain _ => True
  | .read next => ∀ r, (next r).Blind v
  | .keep _ next => next.Blind v
  | .configure _ edit _ next => BlindEdit v edit ∧ next.Blind v
  | .push _ next => next.Blind v
  | .drop _ next => next.Blind v
  | .pop _ next => next.Blind v
  | .withScope _ edit _ body next => BlindEdit v edit ∧ body.Blind v ∧ next.Blind v
  | .addBreadcrumbs _ make _ next =>
    (∀ t t' : Instant, t.seen v = t'.seen v →
      (make t).map (Breadcrumb.seen v) = (make t').map (Breadcrumb.seen v)) ∧ next.Blind v
  | .capture _ make next =>
    (∀ e e' : Event, e.seen v = e'.seen v → (make e).seen v = (make e').seen v) ∧
      (∀ u u' : Uuid, u.seen v = u'.seen v → next u = next u') ∧ ∀ u, (next u).Blind v
  | .fork _ next => next.Blind v
  | .run _ body next => body.Blind v ∧ next.Blind v
  | .attempt body next => body.Blind v ∧ ∀ p, (next p).Blind v
where
  /-- An edit that makes of alike scopes alike scopes, and adds no callback that would not. -/
  BlindEdit (v : View) (edit : Scope → Scope) : Prop :=
    (∀ s s' : Scope, s.seen v = s'.seen v → (edit s).seen v = (edit s').seen v) ∧
      ∀ s : Scope, s.Blind v → (edit s).Blind v

theorem blind_sharp (code : Code ρ) : code.Blind .sharp := by
  have edits : ∀ edit, Blind.BlindEdit .sharp edit := fun edit =>
    ⟨fun s s' same => by simpa using congrArg edit (by simpa using same),
      fun s _ f _ => Event.blind_sharp f⟩
  induction code with
  | stop | panic | panicAgain => trivial
  | read next ih => exact ih
  | keep _ _ ih | push _ _ ih | drop _ _ ih | pop _ _ ih | fork _ _ ih => exact ih
  | configure t edit fails next ih => exact ⟨edits edit, ih⟩
  | withScope t edit fails body next ihBody ihNext => exact ⟨edits edit, ihBody, ihNext⟩
  | addBreadcrumbs t make fails next ih =>
    exact ⟨fun t t' same => by rw [show t = t' from same], ih⟩
  | capture t make next ih =>
    refine ⟨fun e e' same => ?_, fun u u' same => congrArg next same, ih⟩
    rw [Event.seen_sharp, Event.seen_sharp] at same
    rw [same]
  | run i body next ihBody ihNext => exact ⟨ihBody, ihNext⟩
  | attempt body next ihBody ihNext => exact ⟨ihBody, ihNext⟩

end Code

/-! ### Polls -/

/-- The envelopes of events that a client has handed to its transport. -/
def World.capturedBy (w : World) (k : ClientId) : List Envelope :=
  (w.clients[k]?.map Client.captured).getD []

/-- The envelopes that a client has handed over since an earlier world. -/
def World.since (b w : World) (k : ClientId) : List Envelope :=
  (w.capturedBy k).drop (b.capturedBy k).length

/-- What comes of a poll. -/
structure Poll where
  outcome : Outcome Unit
  /-- The envelopes of events that were handed over meanwhile, by each client. -/
  events : ClientId → List Envelope
  boundBefore : Option HubId
  boundAfter : Option HubId

/-- What a view shows of a poll: how it ended, and what was captured in it. -/
def Poll.told (v : View) (p : Poll) : Outcome Unit × (ClientId → List Envelope) :=
  (p.outcome, fun k => (p.events k).map (Envelope.seen v))

/-- What concerns one task. -/
def ofTask {n : Nat} {α : Type} (i : Fin n) (xs : List (Fin n × α)) : List α :=
  (xs.filter fun x => x.1 = i).map Prod.snd

@[simp] theorem ofTask_cons_self {n : Nat} {α : Type} (i : Fin n) (x : α) (xs : List (Fin n × α)) :
    ofTask i ((i, x) :: xs) = x :: ofTask i xs := by
  simp [ofTask]

theorem ofTask_cons_ne {n : Nat} {α : Type} {i j : Fin n} (ne : j ≠ i) (x : α)
    (xs : List (Fin n × α)) : ofTask i ((j, x) :: xs) = ofTask i xs := by
  simp [ofTask, ne]

namespace Code

variable {ρ : Type}

/-- A poll of a task, with its own time and random numbers. -/
def poll (code : Code ρ) (fresh : Fresh) (s : World × Locals ρ) : Poll × (World × Locals ρ) :=
  let before : World × Locals ρ := ({ s.1 with fresh }, s.2)
  let (outcome, after) := match s.2.hubs.head? with
    | some home => Program.runIn home code.exec before
    | none => code.exec before
  ({ outcome
     events := before.1.since after.1
     boundBefore := s.1.thread.bound, boundAfter := after.1.thread.bound },
    after)

/-- The polls of tasks in any order. -/
def interleave {n : Nat} (codes : Fin n → Code ρ) :
    List (Fin n × Fresh) → World → (Fin n → Locals ρ) → List (Fin n × Poll)
  | [], _, _ => []
  | (i, fresh) :: schedule, w, locals =>
    let (p, w, l) := (codes i).poll fresh (w, locals i)
    (i, p) :: interleave codes schedule w (Function.update locals i l)

/-- The polls of one task alone. -/
def alone (code : Code ρ) : List Fresh → World × Locals ρ → List Poll
  | [], _ => []
  | fresh :: rest, s =>
    let (p, s) := code.poll fresh s
    p :: alone code rest s

end Code

end Telemetry
