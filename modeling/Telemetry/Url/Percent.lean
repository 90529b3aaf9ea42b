import Telemetry.Text.Hex

/-! Percent-encoding: which characters each part of a URL writes as bytes in hexadecimal, and
reading such bytes back. -/

namespace Telemetry.Percent

/-- Controls and everything beyond ASCII, which no part of a URL shows as it is. -/
def isControl (c : Char) : Bool := c.toNat < 0x20 || 0x7E < c.toNat

/-- Escaped in fragments. -/
def inFragment (c : Char) : Bool :=
  isControl c || c == ' ' || c == '"' || c == '<' || c == '>' || c == '\x60'

/-- Escaped in paths. -/
def inPath (c : Char) : Bool :=
  inFragment c || c == '#' || c == '?' || c == '\x7b' || c == '\x7d'

/-- Escaped in user names and passwords. -/
def inUserinfo (c : Char) : Bool :=
  inPath c || c == '/' || c == ':' || c == ';' || c == '=' || c == '@' || c == '[' || c == '\\' ||
    c == ']' || c == '^' || c == '|'

/-- Escaped in queries; the apostrophe only in those of special schemes. -/
def inQuery (special : Bool) (c : Char) : Bool :=
  isControl c || c == ' ' || c == '"' || c == '#' || c == '<' || c == '>' ||
    (special && c == '\'')

/-- A hexadecimal digit in upper case. -/
def upperDigit (n : Nat) : Char := (Nat.digitChar n).toUpper

/-- A byte as a percent sign and two digits. -/
def byte (b : UInt8) : List Char := ['%', upperDigit (b.toNat / 16), upperDigit (b.toNat % 16)]

/-- One character, escaped if it is in `escaped`. -/
def encodeChar (escaped : Char → Bool) (c : Char) : List Char :=
  if escaped c then (String.utf8EncodeChar c).flatMap byte else [c]

/-- A text with the characters in `escaped` escaped. -/
def encode (escaped : Char → Bool) (cs : List Char) : List Char := cs.flatMap (encodeChar escaped)

/-- The bytes of a text with its escapes read; a percent sign without two digits stands for itself.
-/
def decodeBytes : List UInt8 → List UInt8
  | [] => []
  | p :: a :: b :: rest =>
    if p = 37 then
      match hexValue? a, hexValue? b with
      | some x, some y => UInt8.ofNat (x.val * 16 + y.val) :: decodeBytes rest
      | _, _ => p :: decodeBytes (a :: b :: rest)
    else p :: decodeBytes (a :: b :: rest)
  | b :: rest => b :: decodeBytes rest

/-- A text with its escapes read, if that gives text again. -/
def decode? (cs : List Char) : Option (List Char) :=
  let bytes := decodeBytes (String.ofList cs).toUTF8.toList
  (String.fromUTF8? ⟨bytes.toArray⟩).map String.toList

end Telemetry.Percent
