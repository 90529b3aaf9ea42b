import Telemetry.Hub.Access

/-! Scopes of a hub: editing the one on top, and layers that are put on it for a while. Whoever puts
a layer on top gets a guard for it, and the guard takes only that layer away again. Nobody else gets
at the layers of a hub while code runs that edits its scope. -/

namespace Telemetry

variable {σ α : Type}

/-- The right to take away a layer, which is known by its depth. -/
structure ScopeGuard where
  hub : HubId
  depth : Nat
deriving DecidableEq, Repr

namespace ScopeGuard

/-- Takes the layer of a guard away, if it is the one on top. -/
def drop (g : ScopeGuard) : Action Unit := do
  let depth ← Action.editLayers g.hub fun s =>
    (s.depth, if s.depth = g.depth then s.pop?.getD s else s)
  if depth ≠ g.depth then
    Action.debug ("[Scope] Scope guard dropped out of order (depth " ++ toString depth ++ " != " ++
      toString g.depth ++ ")")

end ScopeGuard

namespace Action

/-- Puts a copy of the top layer on top. -/
def pushScope (h : HubId) : Action ScopeGuard :=
  editLayers h fun s =>
    let s := s.push
    (⟨h, s.depth⟩, s)

/-- Takes the top layer away, unless it is the last one. -/
def popScope (h : HubId) : Action Unit := do
  let popped ← editLayers h fun s =>
    match s.pop? with
    | some s => (true, s)
    | none => (false, s)
  if !popped then debug "[Hub] Tried to pop the base scope, ignoring"

/-- Says whether the layers of a hub are being written to. -/
def setLocked (h : HubId) (locked : Bool) : Action Unit :=
  .modify (World.editHub h fun hub => { hub with locked })

/-- Adds to a scope what the callback of a client makes of breadcrumbs. -/
def addBreadcrumbsTo (s : Settings) (crumbs : List Breadcrumb) (scope : Scope) : Scope :=
  crumbs.foldl
    (fun scope b =>
      let kept := match s.beforeBreadcrumb with
        | some f => f b
        | none => some b
      match kept with
      | some b => scope.addBreadcrumb b s.maxBreadcrumbs
      | none => scope)
    scope

end Action

namespace Program

open Telemetry.Action

/-- Runs code while nobody else gets at the layers of a hub. -/
def whileLocked (h : HubId) (x : Program σ α) : Program σ α := do
  discard <| (layers h : Action Layers)
  (setLocked h true : Action Unit)
  Run.after x (setLocked h false : Action Unit)

/-- Runs code that edits the top scope of the target's hub, unless that is to be left alone. -/
def configureScope (t : Target) (edit : HubId → Program σ α) : Program σ (Option α) := do
  match ← (t.find? : Action (Option HubId)) with
  | some h => return some (← whileLocked h (edit h))
  | none => return none

/-- Runs code under a layer of its own, whose scope is edited first. A hub that is to be left alone
gets no layer, but the code runs. -/
def withScope (t : Target) (edit : HubId → Program σ Unit) (body : Program σ α) :
    Program σ α := do
  match ← (t.find? : Action (Option HubId)) with
  | none => body
  | some h =>
    let guard ← (pushScope h : Action ScopeGuard)
    Run.after (do whileLocked h (edit h); body) (guard.drop : Action Unit)

/-- Adds breadcrumbs to the top scope of the target's hub. They are made only if a client wants
them. -/
def addBreadcrumbs (t : Target) (make : Program σ (List Breadcrumb)) : Program σ Unit := do
  match ← (t.find? : Action (Option HubId)) with
  | none => return ()
  | some h => whileLocked h do
    let w ← (Run.get : Action World)
    if let some c := (w.hub h).layers.top.client then
      if let some client := w.clients[c]? then
        let crumbs ← make
        (editScope h (addBreadcrumbsTo client.options.toSettings crumbs) : Action Unit)

end Program

end Telemetry
