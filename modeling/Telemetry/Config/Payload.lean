import Telemetry.Envelope
import Telemetry.Json.Fields

/-! Payloads written loosely: what a payload must have but the object leaves out has a plain
default, and floats may be written as text, so that those that are not finite can be written at all.
-/

namespace Telemetry.Config

/-- A field that may be absent or null. -/
def readGiven {α : Type} (d : Decoder α) (j : Json) (k : String) (s : Fresh) :
    Except DecodeError (Option α × Fresh) :=
  match j.given? k with
  | none => .ok (none, s)
  | some j => (d j s).map fun r => (some r.1, r.2)

/-- An object with a float in place of the text that it is written as. -/
def withFloat (k : String) : Json → Json
  | .obj es => .obj (es.map fun (n, v) => match n == k, v, v.asFloat? with
      | true, .str _, some x => (n, .float x)
      | _, _, _ => (n, v))
  | j => j

/-- Reads a check-in. -/
def readCheckIn : Decoder CheckIn := fun j => CheckIn.decode (withFloat "duration" j)

/-- Reads an event: its fields, its kind, a check-in for it, and what its trace says about sampling.
-/
def readEvent : Decoder Event := fun j s => do
  let defaults : List (String × Json) := [("event_id", .str Uuid.nil.text), ("level", .str "error")]
  let (e, s) ← Event.decode (.withDefaults defaults ((j.field? "event").getD (.obj []))) s
  let kind := match j.text "kind" with
    | "transaction" => .transaction
    | "check_in" => .checkIn
    | _ => .default
  let (checkIn, s) ← readGiven readCheckIn j "check_in" s
  let contexts := match j.bool? "sampled", e.traceContext? with
    | some b, some t => e.contexts.insert "trace" (.trace { t with sampled := some b })
    | _, _ => e.contexts
  return ({ e with kind, checkIn, contexts }, s)

/-- Reads a log. -/
def readLog : Decoder Log := fun j =>
  Log.decode (.withDefaults [("level", .str "info"), ("body", .str ""), ("timestamp", .int 0)] j)

/-- Reads a metric. -/
def readMetric : Decoder Metric := fun j =>
  let defaults : List (String × Json) :=
    [("type", .str "counter"), ("name", .str ""), ("value", .int 0), ("timestamp", .int 0),
      ("trace_id", .str (HexId.zero 32).text)]
  Metric.decode (withFloat "value" (.withDefaults defaults j))

/-- Reads a breadcrumb; a text is the message of one. -/
def readBreadcrumb : Decoder Breadcrumb := fun j =>
  Breadcrumb.decode (.withDefaults [("timestamp", .int 0)] (match j with
    | .str _ => .obj [("message", j)]
    | j => j))

/-- Reads an item of an envelope. -/
def readItem : Decoder Item := fun j s =>
  match j.text "item" with
  | "check_in" => (readCheckIn (j.get "check_in") s).map fun r => (.checkIn r.1, r.2)
  | "logs" => (Decoder.items readLog (j.items "logs") s).map fun r => (.logs r.1, r.2)
  | "metrics" => (Decoder.items readMetric (j.items "metrics") s).map fun r => (.metrics r.1, r.2)
  | _ => (readEvent j s).map fun r => (.ofEvent r.1, r.2)

/-- Reads an envelope. -/
def readEnvelope : Decoder Envelope := fun j s =>
  (Decoder.items readItem (j.items "items") s).map fun r => (.ofItems r.1, r.2)

end Telemetry.Config
