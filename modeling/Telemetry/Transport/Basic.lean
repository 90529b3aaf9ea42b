import Telemetry.Options

/-! Transports: where a client hands its envelopes. Some only keep them or throw them away; the
others deliver them, at once or by way of an emitter, and hold back what is limited. -/

namespace Telemetry

/-- What a transport does with envelopes. -/
inductive Carrier where
  /-- It keeps them; some categories may count as limited. -/
  | collecting (limited : Category → Bool)
  | discarding
  /-- It delivers them at once, until it is closed. -/
  | immediate (courier : Courier) (closed : Bool)
  /-- Its worker delivers them. -/
  | queued (courier : Courier) (emitter : Emitter Envelope)

/-- A transport and the envelopes it was handed so far. -/
structure Transport where
  offered : List Envelope
  carrier : Carrier

namespace Transport

/-- A new transport. -/
def new (s : Settings) (kind : TransportKind) : Transport :=
  { offered := []
    carrier := match kind with
      | .collecting limited => .collecting limited
      | .discarding => .discarding
      | .immediate requester => .immediate (.new requester) false
      | .queued requester => .queued (.new requester) (Emitter.new s.transportConfig).start }

/-- What is said about a new transport. -/
def newDiagnostics : TransportKind → List Diagnostic
  | .discarding =>
    [.warn "[Transport] outpost was compiled without transport, envelopes are discarded"]
  | _ => []

/-- Delivers the batches that a worker handed on. -/
def deliverBatches (now : Instant) (batches : List (List Envelope)) (c : Courier) : Courier :=
  batches.foldl (fun c batch => c.deliverAll now batch) c

/-- Lets the worker go on. -/
def turn (now : Instant) (t : Emitter.Turn) (p : Transport) : Transport :=
  match p.carrier with
  | .queued courier emitter =>
    let (batches, emitter) := emitter.turn t
    { p with carrier := .queued (deliverBatches now batches courier) emitter }
  | _ => p

/-- An envelope's identifier as debugging output shows it. -/
def idText (e : Envelope) : String := Quoted.option Uuid.hyphenated e.id

/-- What handing over an envelope led to. -/
structure Sent where
  transport : Transport
  diagnostics : List Diagnostic
  /-- Whether the code that makes the request gave up with a panic. -/
  panicked : Bool

/-- Hands over an envelope. -/
def send (now : Instant) (pace : Emitter.Pace) (e : Envelope) (p : Transport) : Sent :=
  let p := { p with offered := p.offered ++ [e] }
  match p.carrier with
  | .collecting _ => ⟨p, [], false⟩
  | .discarding =>
    let text := "[Transport] Discarding envelope " ++ idText e ++ ", no transport available"
    ⟨p, [.debug text], false⟩
  | .immediate _ true =>
    ⟨p, [.debug "[SyncTransport] Envelope rejected, transport is shut down"], false⟩
  | .immediate courier false =>
    let (delivery, courier) := courier.deliver now e
    ⟨{ p with carrier := .immediate courier false }, delivery.diagnostics,
      delivery = .done .panicked⟩
  | .queued courier emitter =>
    let (before, emitter) := emitter.turn pace.turn
    let courier := deliverBatches now before courier
    match courier.limits.filter now e with
    | none => ⟨{ p with carrier := .queued courier emitter }, [Delivery.skippedMessage], false⟩
    | some kept =>
      let r := emitter.enqueue (pace.sub 0) kept
      ⟨{ p with carrier := .queued (deliverBatches now r.batches courier) r.emitter },
        r.result.diagnostics emitter.config.name ++
          (if r.result.isAccepted then []
           else [.debug "[AsyncTransport] Envelope rejected, transport is shut down or full"]),
        false⟩

/-- Waits until everything is delivered. -/
def flush (now : Instant) (pace : Emitter.Pace) (p : Transport) : Bool × Transport :=
  match p.carrier with
  | .queued courier emitter =>
    let r := emitter.flush pace
    (r.result,
      { p with carrier := .queued (deliverBatches now r.batches courier) r.emitter })
  | _ => (true, p)

/-- Delivers what is left and takes no more. -/
def shutdown (now : Instant) (pace : Emitter.Pace) (p : Transport) :
    Bool × List Diagnostic × Transport :=
  match p.carrier with
  | .queued courier emitter =>
    let r := emitter.shutdown pace
    (r.result.isDone, r.result.diagnostics emitter.config.name,
      { p with carrier := .queued (deliverBatches now r.batches courier) r.emitter })
  | .immediate courier _ => (true, [], { p with carrier := .immediate courier true })
  | _ => (true, [], p)

/-- Whether a category is held back. -/
def isLimited (now : Instant) (c : Category) (p : Transport) : Bool :=
  match p.carrier with
  | .collecting limited => limited c
  | .discarding => false
  | .immediate courier _ => courier.limits.isLimited now c
  | .queued courier _ => courier.limits.isLimited now c

/-- The requests made so far. -/
def requests (p : Transport) : List Envelope :=
  match p.carrier with
  | .immediate courier _ => courier.requests
  | .queued courier _ => courier.requests
  | _ => []

/-- The envelopes that got through: those that were kept, or requested. -/
def passed (p : Transport) : List Envelope :=
  match p.carrier with
  | .collecting _ => p.offered
  | _ => p.requests

/-- Whether a worker is handing on envelopes. -/
def isCalling (p : Transport) : Bool :=
  match p.carrier with
  | .queued _ emitter => emitter.isCalling
  | _ => false

/-- Envelopes refused because the queue was full. -/
def dropped (p : Transport) : Nat :=
  match p.carrier with
  | .queued _ emitter => emitter.dropped
  | _ => 0

end Transport

end Telemetry
