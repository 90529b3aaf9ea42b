import Telemetry.Payload.Span

/-! Check-ins of scheduled jobs and the monitors they belong to. -/

namespace Telemetry

/-- How far a job has come. -/
inductive CheckInStatus where
  | inProgress
  | ok
  | error
deriving DecidableEq, Repr

namespace CheckInStatus

/-- The name of a status. -/
def name : CheckInStatus → String
  | .inProgress => "in_progress"
  | .ok => "ok"
  | .error => "error"

/-- The status of a name. -/
def parse? (s : String) : Option CheckInStatus :=
  [inProgress, ok, error].find? fun t => t.name == s

/-- Reads a status. -/
def decode : Decoder CheckInStatus := .named parse? Decoder.isNull

end CheckInStatus

/-- The unit of an interval schedule. -/
inductive IntervalUnit where
  | minute
  | hour
  | day
  | week
  | month
  | year
deriving DecidableEq, Repr

namespace IntervalUnit

/-- The name of a unit. -/
def name : IntervalUnit → String
  | .minute => "minute"
  | .hour => "hour"
  | .day => "day"
  | .week => "week"
  | .month => "month"
  | .year => "year"

/-- The unit of a name. -/
def parse? (s : String) : Option IntervalUnit :=
  [minute, hour, day, week, month, year].find? fun t => t.name == s

end IntervalUnit

/-- When a job is expected to run. -/
inductive MonitorSchedule where
  | crontab (value : String)
  | interval (value : UInt64) (unit : IntervalUnit)
deriving DecidableEq, Repr

namespace MonitorSchedule

/-- The payload form of a schedule, tagged by its kind. -/
def json : MonitorSchedule → Json
  | .crontab value => .obj [("type", .str "crontab"), ("value", .str value)]
  | .interval value unit =>
    .obj [("type", .str "interval"), ("value", .int value.toNat), ("unit", .str unit.name)]

/-- The tag of a schedule and what else it holds. -/
def tagged : Json → Except DecodeError (Json × Json)
  | .obj entries =>
    match entries.lookup "type" with
    | none => .error (.missing "type")
    | some tag => .ok (tag, .obj (entries.filter fun e => e.1 ≠ "type"))
  | .arr [] => .error (.missing "type")
  | .arr (tag :: rest) => .ok (tag, .arr rest)
  | _ => .error .shape

/-- Reads a schedule, the tag first. -/
def decode : Decoder MonitorSchedule := fun j s => do
  let (tag, content) ← tagged j
  match tag with
  | .str "crontab" =>
    Decoder.record ["value"] (crontab <$> Field.required "value" .string) content s
  | .str "interval" =>
    Decoder.record ["value", "unit"]
      (interval <$> Field.required "value" .uint64 <*>
        Field.required "unit" (.named IntervalUnit.parse? Decoder.isEmptyUnit)) content s
  | _ => .error .shape

end MonitorSchedule

/-- A monitor that a check-in brings up to date. -/
structure MonitorConfig where
  schedule : MonitorSchedule
  checkinMargin : Option UInt64
  maxRuntime : Option UInt64
  timezone : Option String
deriving DecidableEq, Repr

namespace MonitorConfig

/-- The payload form of a monitor. -/
def json (c : MonitorConfig) : Json :=
  Json.object [
    some ("schedule", c.schedule.json),
    Json.optional "checkin_margin" (fun n => .int n.toNat) c.checkinMargin,
    Json.optional "max_runtime" (fun n => .int n.toNat) c.maxRuntime,
    Json.optional "timezone" .str c.timezone]

/-- Reads a monitor. -/
def decode : Decoder MonitorConfig :=
  .record ["schedule", "checkin_margin", "max_runtime", "timezone"]
    (MonitorConfig.mk <$>
      Field.required "schedule" MonitorSchedule.decode <*>
      Field.defaulted "checkin_margin" (.option .uint64) none <*>
      Field.defaulted "max_runtime" (.option .uint64) none <*>
      Field.defaulted "timezone" (.option .string) none)

end MonitorConfig

/-- A report of a scheduled job. -/
structure CheckIn where
  id : Uuid
  monitorSlug : String
  status : CheckInStatus
  environment : Option String
  duration : Option Float
  monitorConfig : Option MonitorConfig

namespace CheckIn

/-- A check-in with a new identifier. -/
def fresh (monitorSlug : String) (status : CheckInStatus) (s : Fresh) : CheckIn × Fresh :=
  let (id, s) := s.uuid
  ({ id, monitorSlug, status, environment := none, duration := none, monitorConfig := none }, s)

/-- The payload form of a check-in. -/
def json (c : CheckIn) : Json :=
  Json.object [
    some ("check_in_id", c.id.json),
    some ("monitor_slug", .str c.monitorSlug),
    some ("status", .str c.status.name),
    Json.optional "environment" .str c.environment,
    Json.optional "duration" .float c.duration,
    Json.optional "monitor_config" MonitorConfig.json c.monitorConfig]

/-- Reads a check-in. -/
def decode : Decoder CheckIn :=
  .record ["check_in_id", "monitor_slug", "status", "environment", "duration", "monitor_config"]
    (CheckIn.mk <$>
      Field.required "check_in_id" .uuid <*>
      Field.required "monitor_slug" .string <*>
      Field.required "status" CheckInStatus.decode <*>
      Field.defaulted "environment" (.option .string) none <*>
      Field.defaulted "duration" (.option .float) none <*>
      Field.defaulted "monitor_config" (.option MonitorConfig.decode) none)

end CheckIn

end Telemetry
