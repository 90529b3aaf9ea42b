import Telemetry.Json.Basic
import Telemetry.Number.Layout

/-! The text of a JSON value: no blanks, entries in their order, and only quotes, backslashes and
control characters escaped. -/

namespace Telemetry.Json

/-- A hexadecimal digit of a control character's escape. -/
def escapeDigit (n : Nat) : Char := Nat.digitChar n

/-- One character of a string. -/
def escape (c : Char) : String :=
  if c = '"' then "\\\""
  else if c = '\\' then "\\\\"
  else if c = '\n' then "\\n"
  else if c = '\r' then "\\r"
  else if c = '\t' then "\\t"
  else if c = '\x08' then "\\b"
  else if c = '\x0c' then "\\f"
  else if c.toNat < 0x20 then
    "\\u00" ++ String.ofList [escapeDigit (c.toNat / 16), escapeDigit (c.toNat % 16)]
  else String.singleton c

/-- A string in quotes. -/
def quote (s : String) : String := "\"" ++ String.join (s.toList.map escape) ++ "\""

/-- A float; what is not finite has no number and is written `null`. -/
def floatText (x : Float) : String :=
  match Binary.ofFloat x with
  | .finite .. => FloatLayout.payload.double x
  | _ => "null"

mutual

/-- The text of a value. -/
def render : Json → String
  | .null => "null"
  | .bool b => if b then "true" else "false"
  | .int n => toString n
  | .float x => floatText x
  | .str s => quote s
  | .arr items => "[" ++ renderItems items ++ "]"
  | .obj entries => "\x7b" ++ renderEntries entries ++ "\x7d"

/-- The items of an array with commas between them. -/
def renderItems : List Json → String
  | [] => ""
  | [j] => render j
  | j :: js => render j ++ "," ++ renderItems js

/-- The entries of an object with commas between them. -/
def renderEntries : List (String × Json) → String
  | [] => ""
  | [(k, j)] => quote k ++ ":" ++ render j
  | (k, j) :: es => quote k ++ ":" ++ render j ++ "," ++ renderEntries es

end

/-- A value in running text: a string as it is, anything else as its JSON text. -/
def display : Json → String
  | .str s => s
  | j => j.render

end Telemetry.Json
