import Telemetry.Number.Shortest

/-! How the digits of a float are laid out as text. A `FloatLayout` says which magnitudes are
written positionally, whether a whole number keeps a fraction, and how an exponent is signed; there
is one layout for payloads, one for messages and one for debugging output. -/

namespace Telemetry

/-- The written form of floats. -/
structure FloatLayout where
  /-- Decimal exponents `[low, high)` that are written positionally; all of them if absent. -/
  positional : Option (Int × Int)
  /-- A positional number without a fraction ends in `.0`. -/
  keepsFraction : Bool
  /-- A positive exponent has its sign. -/
  plusSign : Bool
  tie : Tie
deriving DecidableEq, Repr

namespace FloatLayout

/-- Payloads: positional from `1e-5` up to below `1e16`, always with a fraction. -/
def payload : FloatLayout := ⟨some (-5, 16), true, true, .even⟩

/-- Messages: always positional, and no fraction for whole numbers. -/
def message : FloatLayout := ⟨none, false, false, .away⟩

/-- Debugging output: positional from `1e-4` up to below `1e16`, with a fraction. -/
def debug : FloatLayout := ⟨some (-4, 16), true, false, .away⟩

/-- Digits with the point after the first `point` of them, padded with zeros on either side. -/
def positionalText (l : FloatLayout) (digits : String) (point : Int) : String :=
  let n : Int := digits.length
  if point ≤ 0 then "0." ++ String.ofList (List.replicate (-point).toNat '0') ++ digits
  else if n ≤ point then
    digits ++ String.ofList (List.replicate (point - n).toNat '0') ++
      (if l.keepsFraction then ".0" else "")
  else
    String.ofList (digits.toList.take point.toNat) ++ "." ++
      String.ofList (digits.toList.drop point.toNat)

/-- One digit, the rest after a point, and the exponent. -/
def scientificText (l : FloatLayout) (digits : String) (exponent : Int) : String :=
  let mantissa := match digits.toList with
    | [] => "0"
    | [c] => String.singleton c
    | c :: rest => String.singleton c ++ "." ++ String.ofList rest
  mantissa ++ "e" ++ (if l.plusSign && 0 ≤ exponent then "+" else "") ++ toString exponent

/-- The text of a decimal. -/
def decimalText (l : FloatLayout) (d : Decimal) : String :=
  let digits := toString d.digits
  let point := d.exponent + digits.length
  match l.positional with
  | none => l.positionalText digits point
  | some (low, high) =>
    if low ≤ point - 1 ∧ point - 1 < high then l.positionalText digits point
    else l.scientificText digits (point - 1)

/-- The text of a number of the given format. -/
def text (l : FloatLayout) (f : FloatFormat) : Binary → String
  | .nan => "NaN"
  | .infinite negative => if negative then "-inf" else "inf"
  | .finite negative m q =>
    (if negative then "-" else "") ++
      (if m = 0 then (if l.keepsFraction then "0.0" else "0")
       else l.decimalText (shortestDecimal f l.tie m q))

/-- The text of a double. -/
def double (l : FloatLayout) (x : Float) : String := l.text .double (.ofFloat x)

/-- The text of a single. -/
def single (l : FloatLayout) (x : Float32) : String := l.text .single (.ofFloat32 x)

end FloatLayout

end Telemetry
