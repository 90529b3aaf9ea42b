import Telemetry.Scope

/-! The layers of a hub, each with a client and a scope. Only the top layer is in use; a new layer
starts as a copy of it, and there is always a layer left. -/

namespace Telemetry

/-- A client and a scope. -/
structure Layer where
  client : Option ClientId
  scope : Scope
deriving Inhabited

/-- Layers on top of each other. -/
structure Layers where
  top : Layer
  /-- The layers below the top, the uppermost first. -/
  below : List Layer
deriving Inhabited

namespace Layers

/-- A single layer. -/
def single (l : Layer) : Layers := ⟨l, []⟩

/-- Puts a copy of the top layer on top. -/
def push (s : Layers) : Layers := ⟨s.top, s.top :: s.below⟩

/-- Takes the top layer away, unless it is the last one. -/
def pop? (s : Layers) : Option Layers :=
  match s.below with
  | [] => none
  | l :: ls => some ⟨l, ls⟩

/-- The number of layers below the top. -/
def depth (s : Layers) : Nat := s.below.length

/-- Changes the scope of the top layer. -/
def editScope (f : Scope → Scope) (s : Layers) : Layers :=
  { s with top := { s.top with scope := f s.top.scope } }

/-- Every layer, the top first. -/
def toList (s : Layers) : List Layer := s.top :: s.below

end Layers

/-- The number of a hub. -/
abbrev HubId := Nat

/-- Where a thread or task keeps its scopes. -/
structure Hub where
  layers : Layers
  /-- The last event that was sent. -/
  lastEventId : Option Uuid
  /-- Whether the layers are being written to. -/
  locked : Bool
deriving Inhabited

namespace Hub

/-- A hub of one layer. -/
def new (client : Option ClientId) (scope : Scope) : Hub :=
  { layers := .single ⟨client, scope⟩, lastEventId := none, locked := false }

end Hub

end Telemetry
