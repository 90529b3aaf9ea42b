import Telemetry.Json.Basic
import Telemetry.Number.Reader

/-! Reading JSON text. An object's entries come out sorted by key, the last of several with one key
counting; a number is whole if it has neither fraction nor exponent, is not a negative zero, and
fits into 64 bits. -/

namespace Telemetry.Json.Reader

/-- What is left after blanks. -/
def skip (cs : List Char) : List Char :=
  cs.dropWhile fun c => c = ' ' ∨ c = '\n' ∨ c = '\t' ∨ c = '\r'

/-- The value of a hexadecimal digit. -/
def hex? (c : Char) : Option Nat :=
  if '0' ≤ c ∧ c ≤ '9' then some (c.toNat - 48)
  else if 'a' ≤ c ∧ c ≤ 'f' then some (c.toNat - 87)
  else if 'A' ≤ c ∧ c ≤ 'F' then some (c.toNat - 55)
  else none

/-- Four hexadecimal digits. -/
def hex4? : List Char → Option (Nat × List Char)
  | a :: b :: c :: d :: rest => do
    let a ← hex? a
    let b ← hex? b
    let c ← hex? c
    let d ← hex? d
    some (((a * 16 + b) * 16 + c) * 16 + d, rest)
  | _ => none

/-- A code unit, with a second one if the first is the upper half of a pair. -/
def unicode? (cs : List Char) : Option (Char × List Char) := do
  let (n, rest) ← hex4? cs
  if 0xD800 ≤ n ∧ n < 0xDC00 then
    match rest with
    | '\\' :: 'u' :: rest =>
      let (m, rest) ← hex4? rest
      if 0xDC00 ≤ m ∧ m < 0xE000 then
        some (Char.ofNat (0x10000 + (n - 0xD800) * 0x400 + (m - 0xDC00)), rest)
      else none
    | _ => none
  else if 0xDC00 ≤ n ∧ n < 0xE000 then none
  else some (Char.ofNat n, rest)

/-- The rest of a string after its opening quote, in reverse. -/
def string? : Nat → List Char → List Char → Option (String × List Char)
  | 0, _, _ => none
  | fuel + 1, acc, cs =>
    match cs with
    | '"' :: rest => some (String.ofList acc.reverse, rest)
    | '\\' :: 'u' :: rest => do
      let (c, rest) ← unicode? rest
      string? fuel (c :: acc) rest
    | '\\' :: c :: rest =>
      match c with
      | '"' => string? fuel ('"' :: acc) rest
      | '\\' => string? fuel ('\\' :: acc) rest
      | '/' => string? fuel ('/' :: acc) rest
      | 'n' => string? fuel ('\n' :: acc) rest
      | 't' => string? fuel ('\t' :: acc) rest
      | 'r' => string? fuel ('\r' :: acc) rest
      | 'b' => string? fuel ('\x08' :: acc) rest
      | 'f' => string? fuel ('\x0c' :: acc) rest
      | _ => none
    | c :: rest => if c.toNat < 0x20 then none else string? fuel (c :: acc) rest
    | [] => none

/-- The characters a number may be made of. -/
def isNumberChar (c : Char) : Bool :=
  c.isDigit || c == '-' || c == '+' || c == '.' || c == 'e' || c == 'E'

/-- Whether a run of digits starts with a zero that is not its only digit. -/
def leadsWithZero : List Char → Bool
  | '0' :: _ :: _ => true
  | _ => false

/-- A number out of its characters. -/
def number? (cs : List Char) : Option Json :=
  let (negative, body) := match cs with
    | '-' :: r => (true, r)
    | r => (false, r)
  let whole := body.takeWhile Char.isDigit
  let rest := body.dropWhile Char.isDigit
  if whole.isEmpty || leadsWithZero whole then none
  else
    let asFloat := (FloatText.decimal? body).map fun x => Json.float (if negative then -x else x)
    match rest with
    | [] =>
      let n := FloatText.digitsValue whole
      if negative then
        if n = 0 ∨ UInt64.size / 2 < n then asFloat else some (.int (-(n : Int)))
      else if n < UInt64.size then some (.int n) else asFloat
    | '.' :: r => match r with
      | c :: _ => if c.isDigit then asFloat else none
      | [] => none
    | _ => asFloat

mutual

/-- A value at the front of the text. -/
def value? : Nat → List Char → Option (Json × List Char)
  | 0, _ => none
  | fuel + 1, cs =>
    match skip cs with
    | '"' :: rest => (string? (rest.length + 1) [] rest).map fun (s, r) => (.str s, r)
    | '[' :: rest =>
      match skip rest with
      | ']' :: r => some (.arr [], r)
      | _ => (items? fuel rest).map fun (js, r) => (.arr js, r)
    | '{' :: rest =>
      match skip rest with
      | '}' :: r => some (.obj [], r)
      | _ => (fields? fuel rest).map fun (es, r) => (.obj (sortedEntries es), r)
    | 'n' :: 'u' :: 'l' :: 'l' :: rest => some (.null, rest)
    | 't' :: 'r' :: 'u' :: 'e' :: rest => some (.bool true, rest)
    | 'f' :: 'a' :: 'l' :: 's' :: 'e' :: rest => some (.bool false, rest)
    | rest =>
      (number? (rest.takeWhile isNumberChar)).map fun j => (j, rest.dropWhile isNumberChar)

/-- The items of an array and its closing bracket. -/
def items? : Nat → List Char → Option (List Json × List Char)
  | 0, _ => none
  | fuel + 1, cs => do
    let (j, rest) ← value? fuel cs
    match skip rest with
    | ',' :: rest =>
      let (js, rest) ← items? fuel rest
      some (j :: js, rest)
    | ']' :: rest => some ([j], rest)
    | _ => none

/-- The entries of an object and its closing brace. -/
def fields? : Nat → List Char → Option (List (String × Json) × List Char)
  | 0, _ => none
  | fuel + 1, cs =>
    match skip cs with
    | '"' :: rest => do
      let (k, rest) ← string? (rest.length + 1) [] rest
      match skip rest with
      | ':' :: rest =>
        let (j, rest) ← value? fuel rest
        match skip rest with
        | ',' :: rest =>
          let (es, rest) ← fields? fuel rest
          some ((k, j) :: es, rest)
        | '}' :: rest => some ([(k, j)], rest)
        | _ => none
      | _ => none
    | _ => none

end

end Telemetry.Json.Reader

namespace Telemetry

/-- The value of a JSON text. -/
def Json.read? (s : String) : Option Json :=
  let cs := s.toList
  match Json.Reader.value? (cs.length + 1) cs with
  | some (j, rest) => if (Json.Reader.skip rest).isEmpty then some j else none
  | none => none

end Telemetry
