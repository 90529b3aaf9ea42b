import Telemetry.Client.Channels
import Telemetry.Hub.Layers
import Telemetry.Run

/-! Everything that calls of the library share: clients, hubs, running traces, what each thread
knows, and the surroundings that nobody controls, which are the clock, random numbers and the
progress of the workers. -/

namespace Telemetry

/-- What a thread knows. -/
structure ThreadState where
  /-- The hub in use, if one was chosen. -/
  bound : Option HubId
  /-- The hub that the thread made for itself. -/
  derived : Option HubId
  /-- Whether the main hub belongs to the thread. -/
  ownsMain : Bool
  /-- How many recover boundaries the thread is in. -/
  boundaries : Nat
  /-- The stack of the last panic in a boundary. -/
  stash : Option Stacktrace
  /-- The last panic that was reported, by its payload. -/
  reported : Option (Nat × String)
  /-- What the library said about itself. -/
  log : List Diagnostic
deriving Inhabited

namespace ThreadState

/-- A thread that has just started. -/
def new : ThreadState :=
  { bound := none, derived := none, ownsMain := false, boundaries := 0, stash := none,
    reported := none, log := [] }

end ThreadState

/-- Everything that calls of the library share. -/
structure World where
  fresh : Fresh
  /-- The stack of the moment, as far as it can be captured. -/
  stack : Option Stacktrace
  pace : Emitter.Pace
  /-- How many calls have taken their part of the pace. -/
  calls : Nat
  /-- Whether panics are noticed as they happen. -/
  hooked : Bool
  clients : List Client
  hubs : List Hub
  /-- The hub of the whole process. -/
  main : HubId
  traces : Traces
  /-- The thread that is running. -/
  thread : ThreadState

/-- A call of the library. -/
abbrev Action := Run World

/-- A program that calls the library and has a state of its own. -/
abbrev Program (σ : Type) := Run (World × σ)

namespace World

/-- A hub; one that does not exist has no client. -/
def hub (w : World) (h : HubId) : Hub := w.hubs[h]?.getD default

/-- Changes a hub. -/
def editHub (h : HubId) (f : Hub → Hub) (w : World) : World :=
  { w with hubs := w.hubs.modify h f }

/-- Whether a client is there and enabled. -/
def isEnabled (w : World) (c : ClientId) : Bool := w.clients[c]?.any Client.isEnabled

/-- A world with a main hub and nothing else, seen from a thread that does not own it. -/
def initial (fresh : Fresh) (stack : Option Stacktrace) (pace : Emitter.Pace) (hooked : Bool) :
    World :=
  let (scope, fresh) := Scope.fresh fresh
  { fresh, stack, pace, calls := 0, hooked, clients := [], hubs := [Hub.new none scope], main := 0,
    traces := .empty, thread := .new }

end World

namespace Action

variable {α : Type}

/-- Draws from the surroundings. -/
def draw (f : Fresh → α × Fresh) : Action α :=
  .modifyGet fun w => let (a, fresh) := f w.fresh; (a, { w with fresh })

/-- The current time. -/
def now : Action Instant := do return (← Run.get).fresh.now

/-- What the running thread knows. -/
def thread : Action ThreadState := do return (← Run.get).thread

/-- Changes what the running thread knows. -/
def editThread (f : ThreadState → ThreadState) : Action Unit :=
  .modify fun w => { w with thread := f w.thread }

/-- Says something about the library's work. -/
def tell (ds : List Diagnostic) : Action Unit := editThread fun t => { t with log := t.log ++ ds }

/-- Says something of the least importance. -/
def debug (message : String) : Action Unit := tell [.debug message]

/-- The part of the pace that the next call takes. -/
def nextPace : Action Emitter.Pace :=
  .modifyGet fun w => (w.pace.sub w.calls, { w with calls := w.calls + 1 })

/-- Changes the running traces. -/
def editTraces (f : Traces → Traces) : Action Unit :=
  .modify fun w => { w with traces := f w.traces }

/-- A client. -/
def client? (c : ClientId) : Action (Option Client) := do return (← Run.get).clients[c]?

/-- The panic of code that makes requests. On the thread that captures something it unwinds like any
other, but it is not shown to the hook for panics: what the hook would make of it is left out. -/
def requestPanic : Payload := ⟨0, .other⟩

/-- Has a client do something, its workers having gone on before. If a request panics over it, the
caller is unwound without the hook for panics. -/
def onClient (c : ClientId) (default : α)
    (f : Instant → Emitter.Pace → Client → Client.Step α) : Action α := do
  let pace ← nextPace
  let now ← now
  match ← client? c with
  | none => return default
  | some client =>
    let r := f now (pace.sub 1) (client.turn now (pace.sub 0))
    Run.modify fun w => { w with clients := w.clients.set c r.client }
    tell r.diagnostics
    if r.panicked then Run.unwind requestPanic else return r.result

/-- A blank event. -/
def blankEvent : Action Event := draw Event.fresh

end Action

end Telemetry
