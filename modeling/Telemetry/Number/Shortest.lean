import Telemetry.Number.Binary

/-! The shortest decimal that reads back as a given binary number. For one, two, three digits and so
on, the two neighbours of the number on that decimal grid are tested against the interval of reals
that round to it; the first grid with a hit wins, and of two hits the nearer one. -/

namespace Telemetry

/-- What becomes of a number exactly half-way between two shortest decimals. -/
inductive Tie where
  | even
  | away
deriving DecidableEq, Repr

/-- A decimal `digits * 10 ^ exponent`. -/
structure Decimal where
  digits : Nat
  exponent : Int
deriving DecidableEq, Repr

namespace Shortest

/-- `b ^ e` as a numerator and a denominator. -/
def power (b : Nat) (e : Int) : Nat × Nat :=
  if 0 ≤ e then (Nat.pow b e.toNat, 1) else (1, Nat.pow b (-e).toNat)

/-- How many decimal digits the integer part of `num / den` has, less one; negative below one. -/
def magnitude (num den : Nat) : Int :=
  if den ≤ num then ((toString (num / den)).length : Int) - 1
  else go 400 num 0
where
  /-- Scales the numerator up until the quotient reaches one. -/
  go : Nat → Nat → Int → Int
    | 0, _, acc => acc
    | fuel + 1, n, acc => if den ≤ n then acc else go fuel (n * 10) (acc - 1)

/-- The reals that round to a number: its double bounds in quarter units of the last place. -/
structure Interval where
  low : Nat
  high : Nat
  closed : Bool

/-- The interval around `m * 2 ^ q`, in units of `2 ^ (q - 2)`. -/
def interval (f : FloatFormat) (m : Nat) (q : Int) : Interval :=
  let low := if m = Nat.pow 2 f.fractionBits ∧ f.minExponent < q then 4 * m - 1 else 4 * m - 2
  ⟨low, 4 * m + 2, m % 2 == 0⟩

/-- Whether a candidate lies in an interval, both given over one denominator. -/
def Interval.holds (i : Interval) (unit candidate : Nat) : Bool :=
  if i.closed then i.low * unit ≤ candidate && candidate ≤ i.high * unit
  else i.low * unit < candidate && candidate < i.high * unit

/-- The best of the two neighbours of the number on the grid of `10 ^ e`, if one lies inside. -/
def onGrid (f : FloatFormat) (tie : Tie) (m : Nat) (q e : Int) : Option Nat :=
  let (tn, td) := power 10 e
  let (bn, bd) := power 2 (q - 2)
  let i := interval f m q
  let unit := bn * td
  let step := tn * bd
  let value := 4 * m * unit
  let a := value / step
  let below := i.holds unit (a * step)
  let above := i.holds unit ((a + 1) * step)
  match below && a != 0, above with
  | false, false => none
  | true, false => some a
  | false, true => some (a + 1)
  | true, true =>
    let down := value - a * step
    let up := (a + 1) * step - value
    if down < up then some a
    else if up < down then some (a + 1)
    else match tie with
      | .even => some (if a % 2 = 0 then a else a + 1)
      | .away => some (a + 1)

/-- Tries one digit more each time; eighteen digits always suffice. -/
def search (f : FloatFormat) (tie : Tie) (m : Nat) (q top : Int) : Nat → Nat → Decimal
  | 0, _ => ⟨0, 0⟩
  | fuel + 1, n =>
    let e := top - n
    match onGrid f tie m q e with
    | some d => ⟨d, e⟩
    | none => search f tie m q top fuel (n + 1)

/-- Moves trailing zeros of the digits into the exponent. -/
def strip : Nat → Decimal → Decimal
  | 0, d => d
  | fuel + 1, d =>
    if d.digits ≠ 0 ∧ d.digits % 10 = 0 then strip fuel ⟨d.digits / 10, d.exponent + 1⟩ else d

end Shortest

/-- The shortest decimal for `m * 2 ^ q`, which is not zero. -/
def shortestDecimal (f : FloatFormat) (tie : Tie) (m : Nat) (q : Int) : Decimal :=
  let (bn, bd) := Shortest.power 2 q
  Shortest.strip 400 (Shortest.search f tie m q (Shortest.magnitude (m * bn) bd) 20 0)

end Telemetry
