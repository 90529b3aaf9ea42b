import Telemetry.Proofs.Emitter.Conservation
import Telemetry.Transport.Basic

/-! What happens to a transport that delivers, one move after the other. Somebody offers envelopes, one
after the other; an envelope that is let in is put in its place, where it may have to wait; and the
requests are made one by one, at once or by the worker, each with the answer that comes back for it.
Everything else may happen between any two of these. The order of the moves is arbitrary, each move
that looks at the clock has its own time, and a move that is not possible at its turn changes nothing.
-/

namespace Telemetry.Transport

/-! ### Requests -/

structure Request where
  envelope : Envelope
  /-- When the limits were last looked at before the call. -/
  time : Instant
  limits : RateLimits

/-- The envelopes that were handed on, on their way out. -/
structure Desk where
  limits : RateLimits
  requests : List Request
  /-- What is still to be delivered. -/
  left : List Envelope
  /-- Whether the last call has not ended. -/
  asking : Bool

namespace Desk

def empty : Desk := ⟨.none, [], [], false⟩

/-- Whether everything that was handed on is dealt with. -/
def isFree (d : Desk) : Bool := !d.asking && d.left.isEmpty

/-- Takes the next envelope: calls with what the limits leave of it, if anything. -/
def deliver (now : Instant) (d : Desk) : Desk :=
  match d.asking, d.left with
  | false, e :: rest =>
    match d.limits.filter now e with
    | none => { d with left := rest }
    | some kept =>
      { d with left := rest, asking := true, requests := d.requests ++ [⟨kept, now, d.limits⟩] }
  | _, _ => d

/-- The end of the call; a panic ends the delivery of what was handed on with it. -/
def answer (now : Instant) (result : RequestResult) (d : Desk) : Desk :=
  if d.asking then
    { d with
      asking := false
      limits := Courier.learn now d.limits result
      left := if result = .panicked then [] else d.left }
  else d

end Desk

/-! ### The way to the desk -/

inductive Line where
  /-- At once, until the transport is closed; these got there so far. -/
  | immediate (closed : Bool) (handed : List Envelope)
  | queued (line : Emitter.History Envelope)

namespace Line

def entered : Line → List Envelope
  | .immediate _ handed => handed
  | .queued line => Emitter.items line.sent

def handed : Line → List Envelope
  | .immediate _ handed => handed
  | .queued line => line.handed.flatten

def accepting : Line → Bool
  | .immediate closed _ => !closed
  | .queued line => line.emitter.accepting

/-- Whether somebody is there to offer envelopes. -/
def attached : Line → Bool
  | .immediate _ _ => true
  | .queued line => line.attached

/-- What is left of a new envelope before it is let in. -/
def letIn (now : Instant) (limits : RateLimits) (e : Envelope) : Line → Option Envelope
  | .immediate _ _ => some e
  | .queued _ => limits.filter now e

/-- Counts an envelope that was refused because the queue was full. -/
def refuse (line : Emitter.History Envelope) : Line :=
  .queued { line with emitter := { line.emitter with dropped := line.emitter.dropped + 1 } }

def close : Line → Line
  | .immediate _ handed => .immediate true handed
  | .queued line =>
    .queued { line with emitter := { line.emitter with accepting := false, released := true } }

end Line

/-- How far the offer of an envelope has got. -/
inductive Stage where
  | ended
  | admitted (e : Envelope)
  /-- The transport takes it, once there is room. -/
  | entering (e : Envelope)

namespace Stage

/-- The envelope that may still be let in. -/
def left : Stage → List Envelope
  | .ended => []
  | .admitted e => [e]
  | .entering e => [e]

/-- The envelope that is about to be let in. -/
def taken : Stage → List Envelope
  | .entering e => [e]
  | _ => []

end Stage

/-! ### Moves -/

structure History where
  /-- The envelopes that were offered, the first one first. -/
  offers : List Envelope
  stage : Stage
  line : Line
  desk : Desk

inductive Move where
  /-- An envelope is offered, and the limits are looked at if it is to be queued. -/
  | offer (now : Instant) (e : Envelope)
  /-- The transport takes the envelope, or refuses it. -/
  | enter
  /-- The envelope gets its place, is refused for want of one, or goes on waiting. -/
  | put
  | flush
  | close
  | shutdown
  /-- The worker takes a step. If that ends a call, the call may have panicked. -/
  | work (panics : Bool)
  | expire
  /-- The transport goes. -/
  | leave
  | disconnect
  | deliver (now : Instant)
  | answer (now : Instant) (result : RequestResult)

namespace History

/-- A move of the worker or of its queue. Whatever the worker hands on with it gets to the desk. -/
def advance (m : Emitter.Move Envelope) (h : History) : History :=
  match h.line with
  | .immediate _ _ => h
  | .queued line =>
    let next := line.move m
    { h with
      line := .queued next
      desk := if line.emitter.isCalling then h.desk
        else { h.desk with left := next.emitter.inHand.flatten } }

/-- A step of the worker, which waits for the deliveries of the batch that it hands on. -/
def work (panics : Bool) (h : History) : History :=
  if h.desk.isFree then h.advance (.work panics) else h

def offer (now : Instant) (e : Envelope) (h : History) : History :=
  match h.stage with
  | .ended =>
    if h.line.attached then
      { h with
        offers := h.offers ++ [e]
        stage := match h.line.letIn now h.desk.limits e with
          | some kept => .admitted kept
          | none => .ended }
    else h
  | _ => h

def enter (h : History) : History :=
  match h.stage with
  | .admitted e => { h with stage := if h.line.accepting then .entering e else .ended }
  | _ => h

/-- An envelope gets its place: at the desk once that is free, or in the queue. -/
def put (h : History) : History :=
  match h.stage, h.line with
  | .entering e, .immediate closed handed =>
    if h.desk.isFree then
      { h with
        stage := .ended, line := .immediate closed (handed ++ [e])
        desk := { h.desk with left := [e] } }
    else h
  | .entering e, .queued line =>
    if line.admits then { h with stage := .ended, line := .queued (line.send e) }
    else if !line.emitter.isOpen then { h with stage := .ended }
    else match line.emitter.config.policy with
      | .block => h
      | .dropNewest => { h with stage := .ended, line := .refuse line }
  | _, _ => h

def move (h : History) : Move → History
  | .offer now e => h.offer now e
  | .enter => h.enter
  | .put => h.put
  | .flush => h.advance .flush
  | .close => { h with line := h.line.close }
  | .shutdown => h.advance .shutdown
  | .work panics => h.work panics
  | .expire => h.advance .expire
  | .leave => match h.stage with
    | .ended => h.advance .leave
    | _ => h
  | .disconnect => h.advance .disconnect
  | .deliver now => { h with desk := h.desk.deliver now }
  | .answer now result => { h with desk := h.desk.answer now result }

/-- The start of a transport that delivers at once, or of one whose emitter is made like this. -/
def start : Option BatchConfig → History
  | none => ⟨[], .ended, .immediate false [], .empty⟩
  | some c => ⟨[], .ended, .queued (.start c), .empty⟩

def after (c : Option BatchConfig) (moves : List Move) : History := moves.foldl move (start c)

end History

end Telemetry.Transport
