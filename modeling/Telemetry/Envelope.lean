import Telemetry.Payload.Event
import Telemetry.Payload.Log

/-! Envelopes: the items of one delivery under the identifier of their first event. The wire form is
a header line and then, per item, a header line that gives the length of the payload and the payload
itself, each ended by a newline. -/

namespace Telemetry

/-- The kinds of data that are limited separately. -/
inductive Category where
  | default
  | error
  | transaction
  | monitor
  | logItem
  | traceMetric
deriving DecidableEq, Repr, Inhabited

namespace Category

/-- The name of a category. -/
def name : Category → String
  | .default => "default"
  | .error => "error"
  | .transaction => "transaction"
  | .monitor => "monitor"
  | .logItem => "log_item"
  | .traceMetric => "trace_metric"

/-- Every category. -/
def all : List Category := [.default, .error, .transaction, .monitor, .logItem, .traceMetric]

/-- The category of a name. -/
def parse? (s : String) : Option Category := all.find? fun c => c.name == s

/-- The wording for a name that is no category. -/
def errorMessage : String := "unknown data category"

end Category

/-- One item of an envelope. -/
inductive Item where
  | event (e : Event)
  | transaction (e : Event)
  | checkIn (c : CheckIn)
  | logs (ls : List Log)
  | metrics (ms : List Metric)

namespace Item

/-- The category an item is limited by. -/
def category : Item → Category
  | .event _ => .error
  | .transaction _ => .transaction
  | .checkIn _ => .monitor
  | .logs _ => .logItem
  | .metrics _ => .traceMetric

/-- The name of an item's type in its header. -/
def typeName : Item → String
  | .event _ => "event"
  | .transaction _ => "transaction"
  | .checkIn _ => "check_in"
  | .logs _ => "log"
  | .metrics _ => "trace_metric"

/-- The item an event turns into; an event of the check-in kind is one only if it carries one. -/
def ofEvent (e : Event) : Item :=
  match e.kind, e.checkIn with
  | .transaction, _ => .transaction e
  | .checkIn, some c => .checkIn c
  | .checkIn, none => .event e
  | .default, _ => .event e

/-- The identifier of an item that is an event. -/
def eventId? : Item → Option Uuid
  | .event e => some e.id
  | .transaction e => some e.id
  | _ => none

/-- The payload of an item; a time before the epoch has none. -/
def payload? : Item → Option String
  | .event e => e.json?.map Json.render
  | .transaction e => e.json?.map Json.render
  | .checkIn c => some c.json.render
  | .logs ls => (ls.mapM Log.json?).map fun js => (Json.obj [("items", .arr js)]).render
  | .metrics ms => (ms.mapM Metric.json?).map fun js => (Json.obj [("items", .arr js)]).render

/-- What the header says about a list of records: their number and the type of the payload. -/
def countFields (n : Nat) (contentType : String) : List (String × Json) :=
  [("item_count", .int n), ("content_type", .str contentType)]

/-- The header of an item with a payload of `length` bytes. -/
def header (i : Item) (length : Nat) : Json :=
  .obj ([("type", .str i.typeName)] ++
    (match i with
     | .logs ls => countFields ls.length "application/vnd.sentry.items.log+json"
     | .metrics ms => countFields ms.length "application/vnd.sentry.items.trace-metric+json"
     | _ => []) ++
    [("length", .int length)])

/-- The two lines of an item. -/
def wire? (i : Item) : Option String := do
  let payload ← i.payload?
  return (i.header payload.utf8ByteSize).render ++ "\n" ++ payload ++ "\n"

end Item

/-- The items of one delivery. -/
structure Envelope where
  id : Option Uuid
  items : List Item

namespace Envelope

/-- No items. -/
def empty : Envelope := ⟨none, []⟩

instance : Inhabited Envelope := ⟨empty⟩

/-- Adds an item at the end; the first event gives the envelope its identifier. -/
def add (e : Envelope) (i : Item) : Envelope := ⟨e.id.or i.eventId?, e.items ++ [i]⟩

/-- The envelope of a list of items. -/
def ofItems (items : List Item) : Envelope := items.foldl add empty

/-- The envelope of one item. -/
def ofItem (i : Item) : Envelope := empty.add i

/-- Whether there are no items. -/
def isEmpty (e : Envelope) : Bool := e.items.isEmpty

/-- The envelope of the items in `p`, if there are any; its identifier is that of their first
event. -/
def filter (p : Item → Bool) (e : Envelope) : Option Envelope :=
  let kept := ofItems (e.items.filter p)
  if kept.isEmpty then none else some kept

/-- The first event that is no transaction. -/
def event? (e : Envelope) : Option Event :=
  e.items.findSome? fun | .event e => some e | _ => none

/-- The first transaction. -/
def transaction? (e : Envelope) : Option Event :=
  e.items.findSome? fun | .transaction e => some e | _ => none

/-- The categories of the items, in order. -/
def categories (e : Envelope) : List Category := e.items.map Item.category

/-- The first line. -/
def header (e : Envelope) : Json := Json.object [Json.optional "event_id" HexId.json e.id]

/-- The wire form; an item with a time before the epoch has none. -/
def wire? (e : Envelope) : Option String := do
  let items ← e.items.mapM Item.wire?
  return e.header.render ++ "\n" ++ String.join items

end Envelope

end Telemetry
