import Telemetry.Json.Fields
import Telemetry.Json.Printer
import Telemetry.Options

/-! Rules: what to do with events, written as data. A rule may change an event or drop it, and of a
list of rules each works on what the rule before it left. -/

namespace Telemetry

/-- What to do with an event. -/
inductive Rule where
  | drop
  | dropIfMessage (message : String)
  | dropIfTag (key : String)
  | setMessage (message : String)
  | appendMessage (more : String)
  | setTag (key value : String)
  | setExtra (key : String) (value : Json)
  | setLevel (level : Level)
  | setTransaction (name : String)
  | clearId
  | clearCheckIn
  /-- Notes the number of spans and removes them. -/
  | countSpans
  /-- Notes what is known about where the event came from. -/
  | tagHint
  /-- Notes how much the event holds at this moment. -/
  | tagSeen (name : String)

namespace Rule

/-- Reads a rule: its name and what goes with it. -/
def read? (name : String) (j : Json) : Option Rule :=
  match name, j with
  | "drop", _ => some drop
  | "drop_if_message", .str s => some (dropIfMessage s)
  | "drop_if_tag", .str s => some (dropIfTag s)
  | "set_message", .str s => some (setMessage s)
  | "append_message", .str s => some (appendMessage s)
  | "set_tag", .arr [.str k, v] => some (setTag k v.display)
  | "set_extra", .arr [.str k, v] => some (setExtra k v)
  | "set_level", .str s => (Level.parse? s).map setLevel
  | "set_transaction", .str s => some (setTransaction s)
  | "clear_id", _ => some clearId
  | "clear_check_in", _ => some clearCheckIn
  | "count_spans", _ => some countSpans
  | "tag_hint", _ => some tagHint
  | "tag_seen", .str s => some (tagSeen s)
  | _, _ => none

/-- Reads a list of rules. -/
def readAll (j : Json) : List Rule :=
  j.asItems.flatMap fun r => r.asEntries.filterMap fun e => read? e.1 e.2

/-- How much an event holds: breadcrumbs, tags, and whether it names a trace. -/
def seen (e : Event) : String :=
  toString e.breadcrumbs.length ++ " " ++ toString e.tags.size ++ " " ++
    Quoted.bool (e.contexts.contains "trace")

/-- Applies a rule. -/
def apply (hint : EventHint) (e : Event) : Rule → Option Event
  | drop => none
  | dropIfMessage s => if e.message = some s then none else some e
  | dropIfTag k => if e.tags.contains k then none else some e
  | setMessage s => some { e with message := some s }
  | appendMessage s => some { e with message := some (e.message.getD "" ++ s) }
  | setTag k v => some { e with tags := e.tags.insert k v }
  | setExtra k v => some { e with extra := e.extra.insert k v }
  | setLevel l => some { e with level := l }
  | setTransaction s => some { e with transaction := some s }
  | clearId => some { e with id := Uuid.nil }
  | clearCheckIn => some { e with checkIn := none }
  | countSpans =>
    some { e with extra := e.extra.insert "span_count" (.int e.spans.length), spans := [] }
  | tagHint =>
    some { e with
      tags := e.tags.insertAll [
        ("hint.original", Quoted.option Quoted.text hint.cause),
        ("hint.mechanism", Quoted.option Quoted.text hint.mechanism)] }
  | tagSeen s => some { e with tags := e.tags.insert ("seen." ++ s) (seen e) }

/-- Applies rules, one after the other. -/
def applyAll (rules : List Rule) (hint : EventHint) (e : Event) : Option Event :=
  rules.foldlM (apply hint) e

end Rule

end Telemetry
