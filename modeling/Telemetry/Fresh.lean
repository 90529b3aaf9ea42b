import Telemetry.Text.Hex
import Telemetry.Time

/-! What new records draw on: the current time and a stream of random numbers. The stream is
arbitrary; each number of it is drawn once. -/

namespace Telemetry

/-- The current time and the random numbers not yet drawn. -/
structure Fresh where
  now : Instant
  stream : Nat → Nat
  drawn : Nat

namespace Fresh

/-- The next random number. -/
def draw (s : Fresh) : Nat × Fresh := (s.stream s.drawn, { s with drawn := s.drawn + 1 })

/-- A new event identifier. -/
def uuid (s : Fresh) : Uuid × Fresh := (Uuid.random s.draw.1, s.draw.2)

/-- A new identifier of `n` digits. -/
def hexId (n : Nat) (s : Fresh) : HexId n × Fresh := (HexId.ofNat n s.draw.1, s.draw.2)

/-- A new trace. -/
def traceId (s : Fresh) : TraceId × Fresh := s.hexId 32

/-- A new span. -/
def spanId (s : Fresh) : SpanId × Fresh := s.hexId 16

/-- A number from 0 up to below 1. -/
def unit (s : Fresh) : Float32 × Fresh :=
  (Float32.ofNat (s.draw.1 % 16777216) / Float32.ofNat 16777216, s.draw.2)

end Fresh

end Telemetry
