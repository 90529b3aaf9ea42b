import Telemetry.Envelope
import Telemetry.HttpDate
import Telemetry.Number.Reader

/-! Rate limits: until when the server wants no data, of any kind or of some categories. A limit is
a point in time; it counts for as long as that point lies ahead. -/

namespace Telemetry

/-- What the server answered to one envelope. -/
structure Response where
  status : Nat
  retryAfter : Option String
  rateLimits : Option String
deriving DecidableEq, Repr, Inhabited

/-- The limits in force. -/
structure RateLimits where
  /-- The limit on everything. -/
  everything : Option Instant
  /-- The limits on single categories; that of `default` also holds for those without their own. -/
  category : Category → Option Instant

namespace RateLimits

/-- No limits. -/
def none : RateLimits := ⟨.none, fun _ => .none⟩

instance : Inhabited RateLimits := ⟨none⟩

/-- Seconds in a year, the longest a limit is taken to be. -/
def maxSeconds : Nat := 31536000

/-- Seconds that too many requests without a word on when to retry cost. -/
def defaultSeconds : Nat := 60

/-- A number of seconds, rounded up and kept between zero and the maximum; zero if it is none. -/
def wholeSeconds (b : Binary) : Nat :=
  match b with
  | .nan => 0
  | .infinite negative => if negative then 0 else maxSeconds
  | .finite negative m q => if negative then 0 else min (ceilShift m q) maxSeconds

/-- The point so many seconds from now. -/
def after (now : Instant) (seconds : Float) : Instant :=
  now.add (wholeSeconds (.ofFloat seconds) * Instant.perSecond)

/-- Limits everything for the default time. -/
def tooMany (now : Instant) (l : RateLimits) : RateLimits :=
  { l with everything := some (now.add (defaultSeconds * Instant.perSecond)) }

/-- Limits everything for a number of seconds or until a date; nothing changes for any other text.
-/
def retryAfter (now : Instant) (header : String) (l : RateLimits) : RateLimits :=
  let header := trimBlank header
  let limit := match FloatText.read? header with
    | some seconds => some (after now seconds)
    | .none => Instant.ofHttpDate? header
  if limit.isSome then { l with everything := limit } else l

/-- Sets the limit of a category, if the name is that of one. -/
def limitNamed (limit : Instant) (l : RateLimits) (name : String) : RateLimits :=
  match Category.parse? name with
  | some c => { l with category := fun d => if d = c then some limit else l.category d }
  | .none => l

/-- One group of the header: seconds, the categories they are for, and a scope. Without categories
they are for everything. -/
def group (now : Instant) (l : RateLimits) (text : String) : RateLimits :=
  match splitText ':' text with
  | seconds :: categories :: _ :: _ =>
    match FloatText.read? (trimBlank seconds) with
    | some seconds =>
      let limit := after now seconds
      let l := if categories.isEmpty then { l with everything := some limit } else l
      (splitText ';' categories).foldl (limitNamed limit) l
    | .none => l
  | _ => l

/-- The groups of the header, one after the other. -/
def groups (now : Instant) (header : String) (l : RateLimits) : RateLimits :=
  (splitText ',' header).foldl (fun l g => group now l (trimBlank g)) l

/-- The limits after a response: of its two headers the more specific counts, and without either the
status. -/
def respond (now : Instant) (r : Response) (l : RateLimits) : RateLimits :=
  match r.rateLimits, r.retryAfter with
  | some header, _ => groups now header l
  | .none, some header => retryAfter now header l
  | .none, .none => if r.status = 429 then tooMany now l else l

/-- Nanoseconds until a limit ends, if that lies ahead. -/
def timeLeft (now limit : Instant) : Option Nat :=
  if now.nanos < limit.nanos then some (limit.nanos - now.nanos).toNat else .none

/-- The limit of a category without the one on everything. -/
def own (l : RateLimits) (c : Category) : Option Instant :=
  (if c = .default then .none else l.category c).or (l.category .default)

/-- Nanoseconds for which a category stays limited. -/
def disabled (l : RateLimits) (now : Instant) (c : Category) : Option Nat :=
  (l.everything.bind (timeLeft now)).or ((l.own c).bind (timeLeft now))

/-- Whether a category is limited. -/
def isLimited (l : RateLimits) (now : Instant) (c : Category) : Bool := (l.disabled now c).isSome

/-- An envelope without its limited items. -/
def filter (l : RateLimits) (now : Instant) (e : Envelope) : Option Envelope :=
  e.filter fun i => !l.isLimited now i.category

end RateLimits

end Telemetry
