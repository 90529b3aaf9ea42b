import Telemetry.Text.Printable

/-! Text in quotes, as debugging output shows it: the usual short escapes, and the code point in
braces for a character that has no visible form. -/

namespace Telemetry.Quoted

/-- A code point in hexadecimal, without leading zeros. -/
def codePoint (c : Char) : String := String.ofList (Nat.toDigits 16 c.toNat)

/-- One character; the quote that surrounds it is escaped, the other kind is not. -/
def character (quote : Char) (c : Char) : String :=
  if c = quote then "\\" ++ String.singleton quote
  else if c = '\\' then "\\\\"
  else if c = '\n' then "\\n"
  else if c = '\t' then "\\t"
  else if c = '\r' then "\\r"
  else if c = '\x00' then "\\0"
  else if isPrintable c then String.singleton c
  else "\\u\x7b" ++ codePoint c ++ "\x7d"

/-- A string in double quotes. -/
def text (s : String) : String :=
  "\"" ++ String.join (s.toList.map (character '"')) ++ "\""

/-- A character in single quotes. -/
def char (c : Char) : String :=
  "'" ++ character '\'' c ++ "'"

/-- A value that may be absent. -/
def option {α : Type} (f : α → String) : Option α → String
  | none => "None"
  | some a => "Some(" ++ f a ++ ")"

/-- A list in brackets. -/
def list {α : Type} (f : α → String) (xs : List α) : String :=
  "[" ++ ", ".intercalate (xs.map f) ++ "]"

/-- A record: its name and its fields in braces. -/
def record (name : String) (fields : List (String × String)) : String :=
  name ++ " \x7b " ++ ", ".intercalate (fields.map fun f => f.1 ++ ": " ++ f.2) ++ " \x7d"

/-- A truth value. -/
def bool (b : Bool) : String := if b then "true" else "false"

end Telemetry.Quoted
