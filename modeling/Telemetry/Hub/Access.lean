import Telemetry.World

/-! Hubs and how calls get at them. Whoever reads or writes the layers of a hub waits until nobody
else writes to them. A thread uses the hub it is bound to; else it uses the main hub if that is its
own, and else a hub that it derives from the main hub when it first needs one. -/

namespace Telemetry

/-- The hub that a call is for. -/
inductive Target where
  /-- A given hub. -/
  | hub (h : HubId)
  /-- The hub in use, which is left alone unless it has an enabled client and nobody writes to it.
  -/
  | active
deriving DecidableEq, Repr

namespace Action

variable {α : Type}

/-! ### Layers -/

/-- The layers of a hub. -/
def layers (h : HubId) : Action Layers := do
  let hub := (← Run.get).hub h
  if hub.locked then Run.block else return hub.layers

/-- The top layer of a hub. -/
def top (h : HubId) : Action Layer := do return (← layers h).top

/-- Changes the layers of a hub. -/
def editLayers (h : HubId) (f : Layers → α × Layers) : Action α := do
  let (a, layers) := f (← layers h)
  Run.modify (World.editHub h fun hub => { hub with layers })
  return a

/-- Changes the scope of a hub that its caller writes to already. -/
def editScope (h : HubId) (f : Scope → Scope) : Action Unit :=
  .modify (World.editHub h fun hub => { hub with layers := hub.layers.editScope f })

/-- Has a hub use a client, or none. -/
def bindClient (h : HubId) (client : Option ClientId) : Action Unit :=
  editLayers h fun s => ((), { s with top := { s.top with client } })

/-! ### New hubs -/

/-- Adds a hub. -/
def addHub (hub : Hub) : Action HubId :=
  .modifyGet fun w => (w.hubs.length, { w with hubs := w.hubs ++ [hub] })

/-- A new hub whose only layer is a copy of another hub's top. -/
def forkHub (h : HubId) : Action HubId := do
  let top ← top h
  addHub (.new top.client top.scope)

/-- A copy of a hub. -/
def cloneHub (h : HubId) : Action HubId := do
  let layers ← layers h
  let lastEventId := ((← Run.get).hub h).lastEventId
  addHub { layers, lastEventId, locked := false }

/-! ### The hub in use -/

/-- The hub of a thread that is not bound to any. -/
def unboundHub : Action HubId := do
  let w ← Run.get
  if w.thread.ownsMain then return w.main
  match w.thread.derived with
  | some h => return h
  | none =>
    let h ← forkHub w.main
    editThread fun t => { t with derived := some h }
    return h

/-- The hub in use. -/
def currentHub : Action HubId := do
  match (← thread).bound with
  | some h => return h
  | none => unboundHub

/-- Whether a hub has an enabled client and nobody writes to it; this never waits. -/
def isActive (h : HubId) : Action Bool := do
  let w ← Run.get
  let hub := w.hub h
  return !hub.locked && hub.layers.top.client.any w.isEnabled

end Action

namespace Target

open Telemetry.Action

/-- The hub of a target, unless it is to be left alone. -/
def find? : Target → Action (Option HubId)
  | .hub h => return some h
  | .active => do
    let h ← currentHub
    return if ← isActive h then some h else none

/-- The hub of a target, active or not. -/
def resolve : Target → Action HubId
  | .hub h => return h
  | .active => currentHub

/-- What `f` does with the hub of a target; `default` if it is to be left alone. -/
def visit {α : Type} (t : Target) (default : α) (f : HubId → Action α) : Action α := do
  match ← t.find? with
  | some h => f h
  | none => return default

end Target

end Telemetry
