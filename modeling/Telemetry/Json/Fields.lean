import Telemetry.Json.Basic
import Telemetry.Number.Reader

/-! Fields of objects, read without complaint: a field of the wrong kind counts as absent. -/

namespace Telemetry.Json

/-- A value that may be absent. -/
def orNull {α : Type} (f : α → Json) : Option α → Json
  | some a => f a
  | none => .null

/-- The text that a value is. -/
def asText? : Json → Option String
  | .str s => some s
  | _ => none

/-- The truth value that a value is. -/
def asBool? : Json → Option Bool
  | .bool b => some b
  | _ => none

/-- The whole number that a value is. -/
def asInt? : Json → Option Int
  | .int n => some n
  | _ => none

/-- The number that a value is; it may be written as text. -/
def asFloat? : Json → Option Float
  | .int n => some (Float.ofInt n)
  | .float x => some x
  | .str s => FloatText.read? s
  | _ => none

/-- The items of a list; anything else has none. -/
def asItems : Json → List Json
  | .arr xs => xs
  | _ => []

/-- The entries of an object; anything else has none. -/
def asEntries : Json → List (String × Json)
  | .obj es => es
  | _ => []

/-- A field, or null. -/
def get (j : Json) (k : String) : Json := (j.field? k).getD .null

/-- A field that is neither absent nor null. -/
def given? (j : Json) (k : String) : Option Json :=
  match j.field? k with
  | some .null => none
  | v => v

/-- The text of a field. -/
def text? (j : Json) (k : String) : Option String := (j.get k).asText?

/-- The text of a field; nothing if it is absent. -/
def text (j : Json) (k : String) : String := (j.text? k).getD ""

/-- The truth value of a field. -/
def bool? (j : Json) (k : String) : Option Bool := (j.get k).asBool?

/-- Whether a field is true. -/
def flag (j : Json) (k : String) : Bool := (j.bool? k).getD false

/-- The natural number of a field. -/
def nat? (j : Json) (k : String) : Option Nat := (j.get k).asInt?.map Int.toNat

/-- The items of a field. -/
def items (j : Json) (k : String) : List Json := (j.get k).asItems

/-- The texts among the items of a field. -/
def texts (j : Json) (k : String) : List String := (j.items k).filterMap asText?

/-- The pairs of a name and a value among the items of a field. -/
def pairs (j : Json) (k : String) : List (String × Json) :=
  (j.items k).filterMap fun
    | .arr [.str name, v] => some (name, v)
    | _ => none

/-- An object with defaults for what it does not say. -/
def withDefaults (defaults : List (String × Json)) : Json → Json
  | .obj es => .obj (sortedEntries (defaults ++ es))
  | j => j

end Telemetry.Json
