import Telemetry.Diagnostic
import Telemetry.RateLimit

/-! Delivery of envelopes, one request for each: what the limits hold back is taken out first, and
the answer may bring new limits. -/

namespace Telemetry

/-- Why a request failed. -/
inductive DeliveryError where
  | noDsn
  | unserializable
  | noHttpClient (reason : String)
deriving DecidableEq, Repr

/-- The wording of a delivery's error. -/
def DeliveryError.message : DeliveryError → String
  | .noDsn => "no DSN configured"
  | .unserializable => "failed to serialize envelope"
  | .noHttpClient reason => "failed to build HTTP client: " ++ reason

/-- How a request ended. -/
inductive RequestResult where
  | answered (r : Response)
  | failed (e : DeliveryError)
  /-- The code that makes the request gave up with a panic. -/
  | panicked
deriving DecidableEq, Repr

/-- How envelopes are requested: the result of a request, by its number and its envelope. -/
abbrev Requester := Nat → Envelope → RequestResult

/-- What became of an envelope on its way out. -/
inductive Delivery where
  /-- Every item of it was limited. -/
  | skipped
  | done (result : RequestResult)
deriving DecidableEq, Repr

namespace Delivery

/-- What is said about an envelope whose items are all limited. -/
def skippedMessage : Diagnostic :=
  .info "[Transport] Skipping envelope, all items are rate limited"

/-- What is said about a delivery. -/
def diagnostics : Delivery → List Diagnostic
  | .skipped => [skippedMessage]
  | .done (.answered r) =>
    [.debug ("[Transport] Envelope delivered, status " ++ toString r.status)]
  | .done (.failed e) => [.debug ("[Transport] Failed to send envelope: " ++ e.message)]
  | .done .panicked => []

end Delivery

/-- Who makes the requests: the requests made so far, and the limits they brought. -/
structure Courier where
  requester : Requester
  requests : List Envelope
  limits : RateLimits

namespace Courier

/-- A courier before the first request. -/
def new (requester : Requester) : Courier := ⟨requester, [], .none⟩

/-- The limits after a request. -/
def learn (now : Instant) (limits : RateLimits) : RequestResult → RateLimits
  | .answered r => limits.respond now r
  | _ => limits

/-- Delivers what the limits leave of an envelope. -/
def deliver (now : Instant) (e : Envelope) (c : Courier) : Delivery × Courier :=
  match c.limits.filter now e with
  | none => (.skipped, c)
  | some kept =>
    let result := c.requester c.requests.length kept
    (.done result,
      { c with requests := c.requests ++ [kept], limits := learn now c.limits result })

/-- Delivers the envelopes of a batch, one after the other; a panic ends the batch. -/
def deliverAll (now : Instant) : List Envelope → Courier → Courier
  | [], c => c
  | e :: es, c =>
    match c.deliver now e with
    | (.done .panicked, c) => c
    | (_, c) => deliverAll now es c

end Courier

end Telemetry
