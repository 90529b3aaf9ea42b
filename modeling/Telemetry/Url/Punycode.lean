/-! The encoding of one label of an international domain name in letters, digits and hyphens. -/

namespace Telemetry.Punycode

/-- The digit of a value below 36: letters first, then numerals. -/
def digit (n : Nat) : Char := if n < 26 then Char.ofNat (97 + n) else Char.ofNat (22 + n)

/-- The value of a digit. -/
def value? (c : Char) : Option Nat :=
  if 'a' ≤ c ∧ c ≤ 'z' then some (c.toNat - 97)
  else if 'A' ≤ c ∧ c ≤ 'Z' then some (c.toNat - 65)
  else if '0' ≤ c ∧ c ≤ '9' then some (c.toNat - 22)
  else none

/-- The bias after a delta among `points` code points. -/
def adapt (delta points : Nat) (first : Bool) : Nat :=
  let delta := if first then delta / 700 else delta / 2
  go 64 (delta + delta / points) 0
where
  /-- Counts how often the delta can be divided. -/
  go : Nat → Nat → Nat → Nat
    | 0, _, k => k
    | fuel + 1, delta, k =>
      if 455 < delta then go fuel (delta / 35) (k + 36) else k + 36 * delta / (delta + 38)

/-- The threshold at position `k`. -/
def threshold (k bias : Nat) : Nat :=
  if k ≤ bias then 1 else if bias + 26 ≤ k then 26 else k - bias

/-- A delta as digits of varying base. -/
def deltaDigits (bias : Nat) : Nat → Nat → Nat → List Char
  | 0, _, _ => []
  | fuel + 1, q, k =>
    let t := threshold k bias
    if q < t then [digit q]
    else digit (t + (q - t) % (36 - t)) :: deltaDigits bias fuel ((q - t) / (36 - t)) (k + 36)

/-- The state of encoding: the next code point, the delta so far, the bias, how many code points are
written, and the output in reverse. -/
structure Encoder where
  n : Nat
  delta : Nat
  bias : Nat
  written : Nat
  basic : Nat
  out : List Char

/-- Passes once over the code points, writing those equal to `e.n`. -/
def encodePass (e : Encoder) : List Nat → Encoder
  | [] => e
  | c :: cs =>
    if c < e.n then encodePass { e with delta := e.delta + 1 } cs
    else if c = e.n then
      encodePass
        { e with
          out := (deltaDigits e.bias 64 e.delta 36).reverse ++ e.out
          bias := adapt e.delta (e.written + 1) (e.written = e.basic)
          delta := 0
          written := e.written + 1 } cs
    else encodePass e cs

/-- Writes the code points beyond ASCII in increasing order. -/
def encodeAll (points : List Nat) : Nat → Encoder → List Char
  | 0, e => e.out.reverse
  | fuel + 1, e =>
    match (points.filter fun c => e.n ≤ c).min? with
    | none => e.out.reverse
    | some m =>
      let e := encodePass { e with delta := e.delta + (m - e.n) * (e.written + 1), n := m } points
      encodeAll points fuel { e with delta := e.delta + 1, n := m + 1 }

/-- The encoded form of a label, without the mark in front of it. -/
def encode (label : List Char) : List Char :=
  let points := label.map Char.toNat
  let basic := label.filter fun c => c.toNat < 128
  let start := if basic.isEmpty then [] else '-' :: basic.reverse
  encodeAll points (label.length + 1)
    { n := 128, delta := 0, bias := 72, written := basic.length, basic := basic.length,
      out := start }

/-- One delta, read digit by digit: its sum and what is left. -/
def readDelta (bias : Nat) : Nat → Nat → Nat → List Char → Option (Nat × List Char)
  | _, _, _, [] => none
  | i, w, k, c :: cs => do
    let d ← value? c
    let i := i + d * w
    if UInt32.size ≤ i then none
    else
      let t := threshold k bias
      if d < t then some (i, cs) else readDelta bias i (w * (36 - t)) (k + 36) cs

/-- Reads deltas until the end, inserting one code point each. -/
def decodeAll : Nat → Nat → Nat → Nat → Bool → List Char → List Char → Option (List Char)
  | 0, _, _, _, _, _, _ => none
  | _ + 1, _, _, _, _, out, [] => some out
  | fuel + 1, n, i, bias, first, out, cs => do
    let (j, rest) ← readDelta bias i 1 36 cs
    let size := out.length + 1
    let n := n + j / size
    let at_ := j % size
    if n < 0x110000 ∧ ¬(0xD800 ≤ n ∧ n < 0xE000) then
      decodeAll fuel n (at_ + 1) (adapt (j - i) size first) false
        (out.take at_ ++ [Char.ofNat n] ++ out.drop at_) rest
    else none

/-- The label an encoded form stands for. -/
def decode? (cs : List Char) : Option (List Char) :=
  let tail := (cs.reverse.takeWhile (· ≠ '-')).reverse
  let basic := (cs.take (cs.length - tail.length)).dropLast
  if basic.all fun c => c.toNat < 128 then
    decodeAll (cs.length + 1) 128 0 72 true basic tail
  else none

end Telemetry.Punycode
