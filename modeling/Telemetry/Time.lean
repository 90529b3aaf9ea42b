import Telemetry.Json.Basic
import Telemetry.Number.Layout

/-! Points in time to the nanosecond, and their form in payloads: seconds since 1970, a whole number
where there is no fraction. -/

namespace Telemetry

/-- Nanoseconds since the start of 1970. -/
structure Instant where
  nanos : Int
deriving DecidableEq, Repr, Inhabited

/-- What a number of seconds says as a point in time. -/
inductive SecondsReading where
  | instant (t : Instant)
  /-- Negative, not finite, or later than any point in time. -/
  | invalid
  /-- At or above `2 ^ 64` seconds, more than a length of time can be. -/
  | overflow
deriving DecidableEq, Repr

namespace Instant

/-- Nanoseconds in a second. -/
def perSecond : Nat := 1000000000

/-- The start of 1970. -/
def epoch : Instant := ⟨0⟩

/-- A whole number of seconds since the epoch. -/
def ofSeconds (n : Nat) : Instant := ⟨n * perSecond⟩

/-- The latest whole second that is a point in time. -/
def maxSeconds : Nat := UInt64.size / 2 - 1

/-- A whole number of seconds, if it is not too late. -/
def ofSeconds? (n : Nat) : Option Instant :=
  if n ≤ maxSeconds then some (ofSeconds n) else none

/-- A number of seconds, rounded to the nearest nanosecond. -/
def readSeconds (b : Binary) : SecondsReading :=
  match b with
  | .nan => .invalid
  | .infinite _ => .invalid
  | .finite negative m q =>
    if negative && m != 0 then .invalid
    else
      let nanos := scaledRound perSecond m q
      if UInt64.size * perSecond ≤ nanos then .overflow
      else if nanos / perSecond ≤ maxSeconds then .instant ⟨nanos⟩
      else .invalid

/-- A float number of seconds. -/
def ofFloat (x : Float) : SecondsReading := readSeconds (.ofFloat x)

/-- Seconds since the epoch as a float; zero before it. -/
def toFloat (t : Instant) : Float :=
  if t.nanos < 0 then 0
  else
    let n := t.nanos.toNat
    Float.ofNat (n / perSecond) + Float.ofNat (n % perSecond) / 1e9

/-- The payload form, which points before the epoch do not have. -/
def json? (t : Instant) : Option Json :=
  if t.nanos < 0 then none
  else
    let n := t.nanos.toNat
    if n % perSecond = 0 then some (.int (n / perSecond : Nat)) else some (.float t.toFloat)

/-- The point a length of time later, in nanoseconds. -/
def add (t : Instant) (nanos : Nat) : Instant := ⟨t.nanos + nanos⟩

end Instant

/-- A length of time as debugging output shows it: in the largest unit of which there is at least
one, with the fraction that is left. -/
def durationDebug (nanos : Nat) : String :=
  if 1000000000 ≤ nanos then inUnit 9 "s"
  else if 1000000 ≤ nanos then inUnit 6 "ms"
  else if 1000 ≤ nanos then inUnit 3 "µs"
  else inUnit 0 "ns"
where
  /-- The length in units of `10 ^ places` nanoseconds. -/
  inUnit (places : Nat) (unit : String) : String :=
    let fraction := toString (Nat.pow 10 places + nanos % Nat.pow 10 places)
    let digits := (fraction.toList.drop 1).reverse.dropWhile (· == '0')
    toString (nanos / Nat.pow 10 places) ++
      (if digits.isEmpty then "" else "." ++ String.ofList digits.reverse) ++ unit

end Telemetry
