/-! Severities of events and breadcrumbs. -/

namespace Telemetry

/-- The severity of an event or breadcrumb. -/
inductive Level where
  | debug
  | info
  | warning
  | error
  | fatal
deriving DecidableEq, Repr, Inhabited

namespace Level

/-- The name of a level. -/
def name : Level → String
  | .debug => "debug"
  | .info => "info"
  | .warning => "warning"
  | .error => "error"
  | .fatal => "fatal"

/-- The level of a name; `log` is another name of `info`. -/
def parse? (s : String) : Option Level :=
  if s = "debug" then some .debug
  else if s = "info" ∨ s = "log" then some .info
  else if s = "warning" then some .warning
  else if s = "error" then some .error
  else if s = "fatal" then some .fatal
  else none

/-- The wording for a name that is no level. -/
def errorMessage : String := "invalid level"

/-- Position in the order of severity. -/
def rank : Level → Nat
  | .debug => 0
  | .info => 1
  | .warning => 2
  | .error => 3
  | .fatal => 4

/-- Whether the first level is less severe. -/
def below (a b : Level) : Bool := a.rank < b.rank

end Level

end Telemetry
