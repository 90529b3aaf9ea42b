import Telemetry.Client.Pipeline

/-! What a scope fills in, in three parts: the fields that an event does not say itself, its trace,
and the breadcrumbs. None of them touches what an event is. -/

namespace Telemetry

namespace Scope

variable (s : Scope) (traces : Traces)

def fillFields (e : Event) : Event :=
  { e with
    fingerprint := if e.fingerprint.isEmpty then s.fingerprint.getD [] else e.fingerprint
    user := e.user.or s.user
    level := s.level.getD e.level
    tags := e.tags.union s.tags
    extra := e.extra.union s.extra
    contexts := mergeContexts e.kind e.contexts s.contexts
    transaction := e.transaction.or s.transaction
    request := e.request.or s.request }

def fillTrace (e : Event) : Event :=
  match s.span with
  | some n => traces.applyToEvent n e
  | none => s.applyPropagation e

def fillBreadcrumbs (e : Event) : Event :=
  if e.kind = .default then { e with breadcrumbs := e.breadcrumbs ++ s.breadcrumbs } else e

theorem fill_eq (e : Event) :
    s.fill traces e = s.fillBreadcrumbs (s.fillTrace traces (s.fillFields e)) := rfl

end Scope

namespace Event

/-- Two events of one kind, with one identifier, on the way of one check-in. -/
structure SameCore (e e' : Event) : Prop where
  id : e'.id = e.id
  kind : e'.kind = e.kind
  checkIn : e'.checkIn = e.checkIn

theorem SameCore.trans {e₁ e₂ e₃ : Event} (h : SameCore e₁ e₂) (h' : SameCore e₂ e₃) :
    SameCore e₁ e₃ :=
  ⟨h'.id.trans h.id, h'.kind.trans h.kind, h'.checkIn.trans h.checkIn⟩

variable (s : Scope) (traces : Traces) (e : Event)

theorem sameCore_fillTrace : SameCore e (s.fillTrace traces e) := by
  unfold Scope.fillTrace Traces.applyToEvent Scope.applyPropagation
  split <;> split
  · exact ⟨rfl, rfl, rfl⟩
  · dsimp only
    split <;> exact ⟨rfl, rfl, rfl⟩
  · exact ⟨rfl, rfl, rfl⟩
  · exact ⟨rfl, rfl, rfl⟩

theorem sameCore_fillBreadcrumbs : SameCore e (s.fillBreadcrumbs e) := by
  unfold Scope.fillBreadcrumbs
  split <;> exact ⟨rfl, rfl, rfl⟩

theorem sameCore_fill : SameCore e (s.fill traces e) := by
  rw [Scope.fill_eq]
  have fields : SameCore e (s.fillFields e) := ⟨rfl, rfl, rfl⟩
  exact (fields.trans (sameCore_fillTrace s traces _)).trans (sameCore_fillBreadcrumbs s _)

theorem sameCore_fillIn (c : Client) (stack : Option Stacktrace) (scope : Option Scope) :
    SameCore e (c.fillIn stack traces scope e) := by
  have completed : SameCore e (c.complete stack e) := ⟨rfl, rfl, rfl⟩
  cases scope with
  | none => exact completed
  | some s => exact completed.trans (sameCore_fill s traces _)

end Event

end Telemetry
