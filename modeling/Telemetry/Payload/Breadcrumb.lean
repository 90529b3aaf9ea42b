import Telemetry.Level
import Telemetry.Payload.Decode

/-! Breadcrumbs: what happened before an event. -/

namespace Telemetry

namespace Level

/-- The payload form of a level. -/
def json (l : Level) : Json := .str l.name

/-- Reads a level. -/
def decode : Decoder Level := .plain fun
  | .str s =>
    match parse? s with
    | some l => .ok l
    | none => .error .level
  | _ => .error .shape

end Level

/-- Something that happened before an event. -/
structure Breadcrumb where
  timestamp : Instant
  type : String
  category : Option String
  level : Level
  message : Option String
  data : StringMap Json
deriving Inhabited

namespace Breadcrumb

/-- A breadcrumb of this moment. -/
def make (message : Option String) (now : Instant) : Breadcrumb :=
  { timestamp := now, type := "default", category := none, level := .info, message, data := ∅ }

/-- The payload form of a breadcrumb; a time before the epoch has none. -/
def json? (b : Breadcrumb) : Option Json := do
  let timestamp ← b.timestamp.json?
  return Json.object [
    some ("timestamp", timestamp),
    some ("type", .str b.type),
    Json.optional "category" .str b.category,
    if b.level = .info then none else some ("level", b.level.json),
    Json.optional "message" .str b.message,
    b.data.field "data" id]

/-- Reads a breadcrumb. -/
def decode : Decoder Breadcrumb :=
  .record ["timestamp", "type", "category", "level", "message", "data"]
    (Breadcrumb.mk <$>
      Field.drawn "timestamp" .instant (fun s => (s.now, s)) <*>
      Field.defaulted "type" .string "default" <*>
      Field.defaulted "category" (.option .string) none <*>
      Field.defaulted "level" Level.decode .info <*>
      Field.defaulted "message" (.option .string) none <*>
      Field.defaulted "data" (.map .value) ∅)

end Breadcrumb

end Telemetry
