import Telemetry.Text.Quoted

/-! Identifiers written in hexadecimal. A `HexId n` has `n` digits; its text is the digits in lower
case, and reading it back takes either case and says what is wrong with anything else. -/

namespace Telemetry

/-- A hexadecimal digit in lower case. -/
def hexDigit (d : Fin 16) : Char :=
  if d.val < 10 then Char.ofNat ('0'.toNat + d.val) else Char.ofNat ('a'.toNat + (d.val - 10))

/-- The value of a hexadecimal digit in either case, given as a byte. -/
def hexValue? (b : UInt8) : Option (Fin 16) :=
  let n := b.toNat
  if h : 48 ≤ n ∧ n ≤ 57 then some ⟨n - 48, by omega⟩
  else if h : 97 ≤ n ∧ n ≤ 102 then some ⟨n - 87, by omega⟩
  else if h : 65 ≤ n ∧ n ≤ 70 then some ⟨n - 55, by omega⟩
  else none

/-- An identifier of `n` hexadecimal digits. -/
structure HexId (n : Nat) where
  digits : List (Fin 16)
  length_eq : digits.length = n
deriving DecidableEq

/-- Why a text is no hexadecimal identifier. -/
inductive HexError where
  | oddLength
  | wrongLength
  | badDigit (byte : UInt8) (position : Nat)
deriving DecidableEq, Repr

/-- The wording of a hexadecimal error; a bad byte is shown as the character with its number. -/
def HexError.message : HexError → String
  | .oddLength => "Odd number of digits"
  | .wrongLength => "Invalid string length"
  | .badDigit b i =>
    "Invalid character " ++ Quoted.char (Char.ofNat b.toNat) ++ " at position " ++ toString i

namespace HexId

/-- The digits of an identifier as text. -/
def text {n : Nat} (i : HexId n) : String := String.ofList (i.digits.map hexDigit)

/-- The values of a run of bytes, or the first byte that is no digit. -/
def values : Nat → List UInt8 → Except HexError (List (Fin 16))
  | _, [] => .ok []
  | i, b :: bs =>
    match hexValue? b with
    | none => .error (.badDigit b i)
    | some d => (values (i + 1) bs).map (d :: ·)

/-- Reads an identifier: an odd number of bytes is refused first, then a wrong number of them, then
the first byte that is no digit. -/
def parse (n : Nat) (s : String) : Except HexError (HexId n) :=
  let bytes := s.toUTF8.toList
  if bytes.length % 2 = 1 then .error .oddLength
  else if bytes.length ≠ n then .error .wrongLength
  else match values 0 bytes with
    | .error e => .error e
    | .ok ds => if h : ds.length = n then .ok ⟨ds, h⟩ else .error .wrongLength

/-- All digits zero. -/
def zero (n : Nat) : HexId n := ⟨List.replicate n 0, List.length_replicate⟩

/-- The low digits of a number, most significant first. -/
def ofNat (n : Nat) (v : Nat) : HexId n :=
  ⟨(List.range n).map fun i => Fin.ofNat 16 (v / Nat.pow 16 (n - 1 - i)), by simp⟩

instance (n : Nat) : Inhabited (HexId n) := ⟨zero n⟩

end HexId

/-- A trace: 32 hexadecimal digits. -/
abbrev TraceId := HexId 32

/-- A span within a trace: 16 hexadecimal digits. -/
abbrev SpanId := HexId 16

/-- An event or a check-in: 32 hexadecimal digits, of which all zeros stand for no event. -/
abbrev Uuid := HexId 32

namespace Uuid

/-- The identifier of nothing. -/
def nil : Uuid := HexId.zero 32

/-- Whether this is the identifier of nothing. -/
def isNil (u : Uuid) : Bool := u == nil

/-- Puts the version and the variant of a random identifier into otherwise arbitrary digits. -/
def random (v : Nat) : Uuid :=
  let i := HexId.ofNat 32 v
  ⟨(i.digits.set 12 4).set 16 (Fin.ofNat 16 (8 + v % 4)), by simp [i.length_eq]⟩

/-- Groups of 8, 4, 4, 4 and 12 digits with hyphens between them. -/
def hyphenated (u : Uuid) : String :=
  let cs := u.digits.map hexDigit
  let part (i n : Nat) := String.ofList ((cs.drop i).take n)
  "-".intercalate [part 0 8, part 8 4, part 12 4, part 16 4, part 20 12]

/-- The digits between hyphens at their four places. -/
def unhyphenate? (bs : List UInt8) : Option (List UInt8) :=
  let hyphen : UInt8 := 45
  if bs.length = 36 ∧ bs[8]? = some hyphen ∧ bs[13]? = some hyphen ∧ bs[18]? = some hyphen ∧
      bs[23]? = some hyphen then
    some ((bs.take 8) ++ ((bs.drop 9).take 4) ++ ((bs.drop 14).take 4) ++ ((bs.drop 19).take 4) ++
      bs.drop 24)
  else none

/-- The digits of any of the written forms: plain, hyphenated, in braces, or as a URN. -/
def digitBytes? (bs : List UInt8) : Option (List UInt8) :=
  if bs.length = 32 then some bs
  else if bs.length = 36 then unhyphenate? bs
  else if bs.length = 38 then
    if bs.head? = some 123 ∧ bs.getLast? = some 125 then unhyphenate? ((bs.drop 1).take 36)
    else none
  else if bs.length = 45 then
    if bs.take 9 = "urn:uuid:".toUTF8.toList then unhyphenate? (bs.drop 9) else none
  else none

/-- Reads any of the written forms. -/
def parse? (s : String) : Option Uuid := do
  let bs ← digitBytes? s.toUTF8.toList
  match HexId.values 0 bs with
  | .error _ => none
  | .ok ds => if h : ds.length = 32 then some ⟨ds, h⟩ else none

end Uuid

end Telemetry
