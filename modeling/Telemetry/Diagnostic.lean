/-! What the library says about its own work. -/

namespace Telemetry

/-- How important a diagnostic is. -/
inductive DiagnosticLevel where
  | debug
  | info
  | warn
deriving DecidableEq, Repr

/-- The name of a diagnostic's level. -/
def DiagnosticLevel.name : DiagnosticLevel → String
  | .debug => "debug"
  | .info => "info"
  | .warn => "warn"

/-- One message of the library about itself. -/
structure Diagnostic where
  level : DiagnosticLevel
  message : String
deriving DecidableEq, Repr

namespace Diagnostic

/-- A message of the least importance. -/
def debug (message : String) : Diagnostic := ⟨.debug, message⟩

/-- A message for information. -/
def info (message : String) : Diagnostic := ⟨.info, message⟩

/-- A warning. -/
def warn (message : String) : Diagnostic := ⟨.warn, message⟩

end Diagnostic

end Telemetry
