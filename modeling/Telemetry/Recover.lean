import Telemetry.Hub.Capture

/-! Panics. A boundary reports a panic that leaves it and lets it go on; one that an inner boundary
has reported is known by its payload. Outside of boundaries panics are reported as they happen, if
the client in use has the integration for it. -/

namespace Telemetry

/-- What identifies a reported panic. -/
def Payload.key (p : Payload) : Nat × String := (p.address, p.message)

/-- What is known about where a panic came from. -/
def EventHint.ofPanic (message : String) : EventHint := ⟨some message, some "panic"⟩

namespace Action

variable {α : Type}

/-- Whether the thread is inside a boundary. -/
def isInsideBoundary : Action Bool := do return 0 < (← thread).boundaries

/-- Keeps the stack of a new panic for the boundary around it. -/
def stashStack (s : Option Stacktrace) : Action Unit :=
  editThread fun t => { t with stash := s, reported := none }

/-- Takes the stack that was kept. -/
def takeStack : Action (Option Stacktrace) := do
  let s := (← thread).stash
  editThread fun t => { t with stash := none }
  return s

/-- Reports a panic in a hub. -/
def recover (h : HubId) (p : Payload) : Action Uuid := do
  let stack ← takeStack
  captureIn h (.ofPanic p.message) (Backtrace.panicEvent (← blankEvent) p.message stack)

/-- What the integration for panics does as one happens: inside a boundary it keeps the stack,
outside it reports the panic, with the event of the first extractor that has one. -/
def noticePanic (p : Payload) : Action Unit :=
  Target.active.visit () fun h => do
    let client ← (← top h).client.bindM client?
    if let some extractors := client.bind Client.panicExtractors? then
      let stack := (← Run.get).stack
      if ← isInsideBoundary then
        debug "[PanicIntegration] Panic inside recover boundary, deferring"
        stashStack stack
      else
        debug ("[PanicIntegration] Panic detected: " ++ p.message)
        let blank ← blankEvent
        let extracted := extractors.findSome? fun f => f p.message blank
        let event := extracted.getD (Backtrace.panicEvent blank p.message stack)
        let id ← captureIn h (.ofPanic p.message) event
        debug ("[PanicIntegration] Captured panic as " ++ id.hyphenated ++ ", flushing")
        discard <| flush (.hub h)

/-- Panics. -/
def panic (p : Payload) : Action α := do
  if (← Run.get).hooked then noticePanic p
  Run.unwind p

/-- Panics with a payload that was caught before, which nothing takes notice of. -/
def panicAgain (p : Payload) : Action α := .unwind p

/-- Reports a panic that leaves a boundary, unless that was done already. Behind the outermost
boundary nothing is known about it any more, and everything is delivered. -/
def reportAtBoundary (h : HubId) (p : Payload) : Action Unit := do
  if (← thread).reported ≠ some p.key then
    editThread fun t => { t with reported := some p.key }
    let id ← recover h p
    debug ("[Hub] Captured panic at recover boundary: " ++ id.hyphenated)
  if !(← isInsideBoundary) then
    editThread fun t => { t with reported := none }
    discard <| flush (.hub h)

end Action

namespace Program

open Telemetry.Action

/-- Runs code inside a boundary. -/
def catchUnwind {σ α : Type} (h : HubId) (x : Program σ α) : Program σ α := do
  (editThread (fun t => { t with boundaries := t.boundaries + 1 }) : Action Unit)
  let r ← Run.attempt x
  (editThread (fun t => { t with boundaries := t.boundaries - 1 }) : Action Unit)
  match r with
  | .ok a => return a
  | .error p =>
    (reportAtBoundary h p : Action Unit)
    Run.unwind p

end Program

end Telemetry
