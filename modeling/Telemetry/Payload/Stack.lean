import Telemetry.Payload.Decode

/-! Stack traces, and the errors of an error chain with the way each was caught. -/

namespace Telemetry

/-- One frame of a stack. -/
structure Frame where
  function : Option String
  symbol : Option String
  module : Option String
  filename : Option String
  absPath : Option String
  lineno : Option UInt64
  colno : Option UInt64
  inApp : Option Bool
deriving DecidableEq, Inhabited

namespace Frame

/-- The payload form of a frame. -/
def json (f : Frame) : Json :=
  Json.object [
    Json.optional "function" .str f.function,
    Json.optional "symbol" .str f.symbol,
    Json.optional "module" .str f.module,
    Json.optional "filename" .str f.filename,
    Json.optional "abs_path" .str f.absPath,
    Json.optional "lineno" (fun n => .int n.toNat) f.lineno,
    Json.optional "colno" (fun n => .int n.toNat) f.colno,
    Json.optional "in_app" .bool f.inApp]

/-- Reads a frame. -/
def decode : Decoder Frame :=
  .record ["function", "symbol", "module", "filename", "abs_path", "lineno", "colno", "in_app"]
    (Frame.mk <$>
      Field.defaulted "function" (.option .string) none <*>
      Field.defaulted "symbol" (.option .string) none <*>
      Field.defaulted "module" (.option .string) none <*>
      Field.defaulted "filename" (.option .string) none <*>
      Field.defaulted "abs_path" (.option .string) none <*>
      Field.defaulted "lineno" (.option .uint64) none <*>
      Field.defaulted "colno" (.option .uint64) none <*>
      Field.defaulted "in_app" (.option .bool) none)

end Frame

/-- The frames of a stack, the innermost last. -/
structure Stacktrace where
  frames : List Frame
deriving DecidableEq, Inhabited

namespace Stacktrace

/-- The payload form of a stack trace. -/
def json (s : Stacktrace) : Json := .obj [("frames", Json.array Frame.json s.frames)]

/-- Reads a stack trace. -/
def decode : Decoder Stacktrace :=
  .record ["frames"] (Stacktrace.mk <$> Field.defaulted "frames" (.list Frame.decode) [])

end Stacktrace

/-- How an error was caught. -/
structure Mechanism where
  type : String
  description : Option String
  handled : Option Bool
  data : StringMap Json
deriving Inhabited

namespace Mechanism

/-- The payload form of a mechanism. -/
def json (m : Mechanism) : Json :=
  Json.object [
    some ("type", .str m.type),
    Json.optional "description" .str m.description,
    Json.optional "handled" .bool m.handled,
    m.data.field "data" id]

/-- Reads a mechanism. -/
def decode : Decoder Mechanism :=
  .record ["type", "description", "handled", "data"]
    (Mechanism.mk <$>
      Field.required "type" .string <*>
      Field.defaulted "description" (.option .string) none <*>
      Field.defaulted "handled" (.option .bool) none <*>
      Field.defaulted "data" (.map .value) ∅)

end Mechanism

/-- One error of a chain. -/
structure Exception where
  type : String
  value : Option String
  module : Option String
  stacktrace : Option Stacktrace
  mechanism : Option Mechanism
deriving Inhabited

namespace Exception

/-- The payload form of an error. -/
def json (e : Exception) : Json :=
  Json.object [
    some ("type", .str e.type),
    Json.optional "value" .str e.value,
    Json.optional "module" .str e.module,
    Json.optional "stacktrace" Stacktrace.json e.stacktrace,
    Json.optional "mechanism" Mechanism.json e.mechanism]

/-- Reads an error. -/
def decode : Decoder Exception :=
  .record ["type", "value", "module", "stacktrace", "mechanism"]
    (Exception.mk <$>
      Field.required "type" .string <*>
      Field.defaulted "value" (.option .string) none <*>
      Field.defaulted "module" (.option .string) none <*>
      Field.defaulted "stacktrace" (.option Stacktrace.decode) none <*>
      Field.defaulted "mechanism" (.option Mechanism.decode) none)

end Exception

end Telemetry
