import Telemetry.Text.Blank
import Telemetry.Url.Percent

/-! Hosts of URLs: domain names in their ASCII form, addresses of four numbers in any of their
spellings, and addresses of eight words in brackets with the longest run of zeros left out. -/

namespace Telemetry.Host

/-! ### Domain names -/

/-- Characters that no domain name may hold. -/
def isForbidden (c : Char) : Bool :=
  c.toNat ≤ 0x20 || c.toNat == 0x7F ||
    ['#', '/', ':', '<', '>', '?', '@', '[', '\\', ']', '^', '|', '%'].contains c

/-- The ASCII forms of domain names, which are left to whoever runs a client. -/
class Names where
  /-- The ASCII form of a domain name; nothing for what is none. -/
  ascii? : List Char → Option (List Char)

/-! ### Addresses of four numbers -/

/-- The value of digits in a base, if all of them are digits. -/
def digits? (base : Nat) (cs : List Char) : Option Nat :=
  cs.foldlM (fun n c =>
    match c.toNat with
    | m =>
      let v :=
        if 48 ≤ m ∧ m ≤ 57 then m - 48
        else if 97 ≤ m ∧ m ≤ 102 then m - 87
        else if 65 ≤ m ∧ m ≤ 70 then m - 55
        else 99
      if v < base then some (n * base + v) else none) 0

/-- A number in decimal, octal or hexadecimal. -/
def number? : List Char → Option Nat
  | [] => none
  | '0' :: x :: rest =>
    if x = 'x' ∨ x = 'X' then digits? 16 rest else digits? 8 (x :: rest)
  | cs => digits? 10 cs

/-- The parts of a name between its full stops, without an empty last one. -/
def numericParts (cs : List Char) : List (List Char) :=
  let parts := splitList '.' cs
  if parts.getLast? = some [] then parts.dropLast else parts

/-- Whether the last part of a name is a number, so that the name must be an address. -/
def endsInNumber (cs : List Char) : Bool :=
  match (numericParts cs).getLast? with
  | none => false
  | some last => (!last.isEmpty && last.all Char.isDigit) || (number? last).isSome

/-- The address a name of up to four numbers stands for; the last number fills what is left. -/
def address? (cs : List Char) : Option Nat := do
  let parts := numericParts cs
  if 4 < parts.length then none
  else
    let numbers ← parts.mapM number?
    let last ← numbers.getLast?
    let front := numbers.dropLast
    if front.any fun n => 255 < n then none
    else if Nat.pow 256 (4 - front.length) ≤ last then none
    else
      some (front.zipIdx.foldl (fun acc (n, i) => acc + n * Nat.pow 256 (3 - i)) last)

/-- An address as four decimal numbers. -/
def addressText (n : Nat) : List Char :=
  let part (i : Nat) := (toString (n / Nat.pow 256 i % 256)).toList
  List.intercalate ['.'] [part 3, part 2, part 1, part 0]

/-! ### Addresses of eight words -/

/-- Four numbers below 256 without leading zeros, as two words. -/
def embedded? (cs : List Char) : Option (List Nat) := do
  let parts := splitList '.' cs
  let numbers ← parts.mapM fun p =>
    let isLeadingZero := 1 < p.length && p.head? == some '0'
    if p.isEmpty || 3 < p.length || !p.all Char.isDigit || isLeadingZero then none
    else (digits? 10 p).bind fun n => if n < 256 then some n else none
  match numbers with
  | [a, b, c, d] => some [a * 256 + b, c * 256 + d]
  | _ => none

/-- The words of one side of a double colon. -/
def words? (cs : List Char) : Option (List Nat) :=
  if cs.isEmpty then some []
  else go (splitList ':' cs)
where
  /-- Words of up to four digits; the last may be four numbers instead. -/
  go : List (List Char) → Option (List Nat)
    | [] => some []
    | [last] => if last.contains '.' then embedded? last else (word? last).map ([·])
    | w :: ws => do
      let n ← word? w
      let ns ← go ws
      some (n :: ns)
  /-- One word. -/
  word? (w : List Char) : Option Nat :=
    if w.isEmpty || 4 < w.length then none else digits? 16 w

/-- Splits at the first double colon. -/
def splitDouble : List Char → List Char × Option (List Char)
  | ':' :: ':' :: rest => ([], some rest)
  | c :: cs => let (a, b) := splitDouble cs; (c :: a, b)
  | [] => ([], none)

/-- The eight words of an address; a double colon stands for at least one word of zero. -/
def sixWords? (cs : List Char) : Option (List Nat) := do
  match splitDouble cs with
  | (front, none) =>
    let ws ← if front.isEmpty then none else words? front
    if ws.length = 8 then some ws else none
  | (front, some back) =>
    let a ← if front.contains '.' then none else words? front
    let b ← words? back
    if a.length + b.length ≤ 7 then some (a ++ List.replicate (8 - a.length - b.length) 0 ++ b)
    else none

/-- The first longest run of at least two zeros: where it starts and how long it is. -/
def longestZeros (ws : List Nat) : Option (Nat × Nat) :=
  let run (i : Nat) := ((ws.drop i).takeWhile (· == 0)).length
  (List.range ws.length).foldl (fun best i =>
    let n := run i
    if n < 2 then best
    else match best with
      | some (_, m) => if m < n then some (i, n) else best
      | none => some (i, n)) none

/-- An address of eight words in its shortest form. -/
def sixText (ws : List Nat) : List Char :=
  let hex (ns : List Nat) := List.intercalate [':'] (ns.map fun n => Nat.toDigits 16 n)
  match longestZeros ws with
  | none => hex ws
  | some (i, n) => hex (ws.take i) ++ [':', ':'] ++ hex (ws.drop (i + n))

/-! ### Hosts -/

/-- An address in brackets. -/
def bracketed? (cs : List Char) : Option (List Char) :=
  if cs.getLast? = some ']' then
    (sixWords? ((cs.drop 1).dropLast)).map fun ws => ['['] ++ sixText ws ++ [']']
  else none

/-- The host of a special scheme, `domain?` giving the ASCII form of names. -/
def special? (domain? : List Char → Option (List Char)) (cs : List Char) : Option (List Char) :=
  if cs.head? = some '[' then bracketed? cs
  else do
    let decoded ← Percent.decode? cs
    let name ← domain? decoded
    if name.isEmpty then none
    else if endsInNumber name then (address? name).map addressText
    else some name

/-- Characters that no host of another scheme may hold. -/
def isForbiddenOpaque (c : Char) : Bool :=
  ['\x00', '\t', '\n', '\r', ' ', '#', '/', ':', '<', '>', '?', '@', '[', '\\', ']', '^',
    '|'].contains c

/-- The host of any other scheme. -/
def opaqueHost? (cs : List Char) : Option (List Char) :=
  if cs.head? = some '[' then bracketed? cs
  else if cs.any isForbiddenOpaque then none
  else some (Percent.encode Percent.isControl cs)

end Telemetry.Host
