import Telemetry.Envelope
import Telemetry.Trace.Tree

/-! Scopes: what is known about the surroundings of whatever is captured in them. A scope fills in
what an event, a log or a metric does not say itself, and its processors may change or drop an
event. -/

namespace Telemetry

/-- The surroundings of what is captured. -/
structure Scope where
  level : Option Level
  fingerprint : Option (List String)
  transaction : Option String
  /-- What happened before, the oldest first. -/
  breadcrumbs : List Breadcrumb
  user : Option User
  extra : StringMap Json
  tags : StringMap String
  contexts : StringMap Context
  request : Option Request
  /-- What may change or drop an event, in the order of being asked. -/
  processors : List (Event → Option Event)
  /-- The transaction or span under way. -/
  span : Option Node
  /-- The trace of everything captured while no span is under way. -/
  propagation : TraceHeader

/-- Why an event was not sent. -/
inductive EventDrop where
  | processor (id : Uuid)
  | integration (name : String) (id : Uuid)
  | ignored (id : Uuid) (pattern : String)
  | notSampled (id : Uuid)
  | sampledOut (id : Uuid) (rate : Float32)
  | beforeSend (id : Uuid)

namespace EventDrop

/-- What is said about a dropped event. -/
def message : EventDrop → String
  | .processor id => "[Scope] Event processor dropped event " ++ id.hyphenated
  | .integration name id =>
    "[Client] Integration '" ++ name ++ "' dropped event " ++ id.hyphenated
  | .ignored id pattern =>
    "[Client] Event " ++ id.hyphenated ++ " ignored by pattern `" ++ pattern ++ "`"
  | .notSampled id => "[Client] Transaction " ++ id.hyphenated ++ " was not sampled"
  | .sampledOut id rate =>
    "[Client] Event " ++ id.hyphenated ++ " dropped due to sampling (rate: " ++
      FloatLayout.message.single rate ++ ")"
  | .beforeSend id => "[Client] before_send dropped event " ++ id.hyphenated

end EventDrop

/-- Something that is asked about an event and may change or drop it. -/
structure Stage (m : Type → Type) where
  ask : Event → m (Option Event)
  /-- Why an event with an identifier goes no further, if it is dropped here. -/
  drop : Uuid → EventDrop

namespace Stage

variable {m : Type → Type} [Monad m]

/-- A function as a stage. -/
def ofFunction (drop : Uuid → EventDrop) (f : Event → Option Event) : Stage m :=
  ⟨fun e => pure (f e), drop⟩

/-- Asks stages, one after the other, each about what the one before it left. -/
def askAll : List (Stage m) → Event → ExceptT EventDrop m Event
  | [], e => pure e
  | f :: fs, e => do
    match ← f.ask e with
    | some e' => askAll fs e'
    | none => throw (f.drop e.id)

end Stage

namespace Scope

/-- A scope that says nothing, with a trace of its own. -/
def empty (propagation : TraceHeader) : Scope :=
  { level := none, fingerprint := none, transaction := none, breadcrumbs := [], user := none,
    extra := ∅, tags := ∅, contexts := ∅, request := none, processors := [], span := none,
    propagation }

/-- An empty scope with a new trace. -/
def fresh (s : Fresh) : Scope × Fresh :=
  let (propagation, s) := TraceHeader.fresh s
  (empty propagation, s)

instance : Inhabited Scope := ⟨empty ⟨default, default, none⟩⟩

/-! ### Editing -/

/-- Adds a breadcrumb and forgets the oldest ones beyond `limit`; with no room for any, nothing
changes. -/
def addBreadcrumb (b : Breadcrumb) (limit : Nat) (s : Scope) : Scope :=
  if limit = 0 then s
  else
    let all := s.breadcrumbs ++ [b]
    { s with breadcrumbs := all.drop (all.length - limit) }

/-- Forgets the breadcrumbs. -/
def clearBreadcrumbs (s : Scope) : Scope := { s with breadcrumbs := [] }

/-- Sets a tag. -/
def setTag (key value : String) (s : Scope) : Scope := { s with tags := s.tags.insert key value }

/-- Sets several tags. -/
def setTags (tags : List (String × String)) (s : Scope) : Scope :=
  { s with tags := s.tags.insertAll tags }

/-- Removes a tag. -/
def removeTag (key : String) (s : Scope) : Scope := { s with tags := s.tags.erase key }

/-- The value of a tag. -/
def tag? (s : Scope) (key : String) : Option String := s.tags.get? key

/-- Sets a piece of data. -/
def setExtra (key : String) (value : Json) (s : Scope) : Scope :=
  { s with extra := s.extra.insert key value }

/-- Sets several pieces of data. -/
def setExtras (extras : List (String × Json)) (s : Scope) : Scope :=
  { s with extra := s.extra.insertAll extras }

/-- Removes a piece of data. -/
def removeExtra (key : String) (s : Scope) : Scope := { s with extra := s.extra.erase key }

/-- Sets a context. -/
def setContext (key : String) (value : Context) (s : Scope) : Scope :=
  { s with contexts := s.contexts.insert key value }

/-- Removes a context. -/
def removeContext (key : String) (s : Scope) : Scope :=
  { s with contexts := s.contexts.erase key }

/-- Adds a processor, which is asked after those already there. -/
def addProcessor (f : Event → Option Event) (s : Scope) : Scope :=
  { s with processors := s.processors ++ [f] }

/-! ### Applying -/

/-- What identifies the trace of the moment: the node under way, or the scope's own trace. -/
def traceHeader (traces : Traces) (s : Scope) : TraceHeader :=
  (s.span.bind traces.header?).getD s.propagation

/-- The headers that hand the trace on. -/
def propagationHeaders (traces : Traces) (s : Scope) : List (String × String) :=
  (s.traceHeader traces).headers

/-- The contexts of an event with those of a scope; a transaction keeps its own trace. -/
def mergeContexts (kind : EventKind) (own scope : StringMap Context) : StringMap Context :=
  own.insertAll (scope.entries.filter fun e =>
    !(kind = .transaction && e.1 = "trace" && own.contains "trace"))

/-- The context of the scope's own trace. -/
def propagationContext (s : Scope) : TraceContext :=
  { spanId := s.propagation.spanId, traceId := s.propagation.traceId, parentSpanId := none,
    op := none, description := none, status := none, data := ∅, sampled := none }

/-- Adds the scope's own trace to an event that has none. -/
def applyPropagation (s : Scope) (e : Event) : Event :=
  if e.contexts.contains "trace" then e
  else { e with contexts := e.contexts.insert "trace" (.trace s.propagationContext) }

/-- Fills in an event what it does not say itself. -/
def fill (traces : Traces) (s : Scope) (e : Event) : Event :=
  let e :=
    { e with
      fingerprint := if e.fingerprint.isEmpty then s.fingerprint.getD [] else e.fingerprint
      user := e.user.or s.user
      level := s.level.getD e.level
      tags := e.tags.union s.tags
      extra := e.extra.union s.extra
      contexts := mergeContexts e.kind e.contexts s.contexts
      transaction := e.transaction.or s.transaction
      request := e.request.or s.request }
  let e := match s.span with
    | some n => traces.applyToEvent n e
    | none => s.applyPropagation e
  if e.kind = .default then { e with breadcrumbs := e.breadcrumbs ++ s.breadcrumbs } else e

/-- The processors as stages. -/
def stages {m : Type → Type} [Monad m] (s : Scope) : List (Stage m) :=
  s.processors.map (.ofFunction .processor)

/-- Applies a scope to an event. -/
def applyToEvent (traces : Traces) (s : Scope) (e : Event) : Except EventDrop Event :=
  Id.run (Stage.askAll s.stages (s.fill traces e)).run

/-- An attribute of text. -/
def textAttribute (s : String) : Attribute := ⟨.str s⟩

/-- The fields of a user that logs may carry. -/
def userAttributes (u : User) : List (String × Option String) :=
  [("user.id", u.id), ("user.name", u.username), ("user.email", u.email)]

/-- Sets attributes that have a value, unless they are set already. -/
def addAttributes (attributes : StringMap Attribute) (defaults : List (String × Option String)) :
    StringMap Attribute :=
  defaults.foldl
    (fun m d => match d.2 with
      | some v => m.insertNew d.1 (textAttribute v)
      | none => m)
    attributes

/-- Applies a scope to a log. -/
def applyToLog (traces : Traces) (s : Scope) (withUser : Bool) (l : Log) : Log :=
  let parent := (s.span.bind traces.header?).map fun h => h.spanId.text
  let user := if withUser then (s.user.map userAttributes).getD [] else []
  { l with
    traceId := some (l.traceId.getD (s.traceHeader traces).traceId)
    attributes := addAttributes l.attributes (("sentry.trace.parent_span_id", parent) :: user) }

/-- Applies a scope to a metric. -/
def applyToMetric (traces : Traces) (s : Scope) (m : Metric) : Metric :=
  { m with
    traceId := (s.traceHeader traces).traceId
    spanId := m.spanId.or ((s.span.bind traces.header?).map TraceHeader.spanId) }

end Scope

end Telemetry
