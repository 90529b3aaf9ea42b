/-! Reading a float from text: an optional sign, then digits with an optional point and exponent, or
one of `inf`, `infinity` and `nan` in any letter case. -/

namespace Telemetry.FloatText

/-- `digits * 10 ^ exponent` as the nearest double; exponents far out of range are not computed. -/
def nearest (digits : Nat) (exponent : Int) : Float :=
  if digits = 0 then 0
  else
    let top := exponent + (toString digits).length
    if 400 < top then 1.0 / 0.0
    else if top < -400 then 0
    else if 0 ≤ exponent then Float.ofScientific digits false exponent.toNat
    else Float.ofScientific digits true (-exponent).toNat

/-- The value of a run of decimal digits. -/
def digitsValue (ds : List Char) : Nat :=
  ds.foldl (fun n c => n * 10 + (c.toNat - '0'.toNat)) 0

/-- Digits and a sign in front of them, of which at least one must be there. -/
def exponent? : List Char → Option Int
  | '+' :: ds => unsigned? ds
  | '-' :: ds => (unsigned? ds).map (- ·)
  | ds => unsigned? ds
where
  /-- A non-empty run of digits. -/
  unsigned? (ds : List Char) : Option Int :=
    if !ds.isEmpty && ds.all Char.isDigit then some (digitsValue ds) else none

/-- An unsigned decimal. -/
def decimal? (cs : List Char) : Option Float :=
  let whole := cs.takeWhile Char.isDigit
  let rest := cs.dropWhile Char.isDigit
  let (fraction, rest) := match rest with
    | '.' :: r => (r.takeWhile Char.isDigit, r.dropWhile Char.isDigit)
    | r => ([], r)
  if whole.isEmpty && fraction.isEmpty then none
  else
    let digits := digitsValue (whole ++ fraction)
    match rest with
    | [] => some (nearest digits (-(fraction.length : Int)))
    | c :: r =>
      if c = 'e' ∨ c = 'E' then
        (exponent? r).map fun e => nearest digits (e - fraction.length)
      else none

/-- An unsigned number: a decimal, an infinity or not a number. -/
def unsigned? (cs : List Char) : Option Float :=
  let lower := String.ofList (cs.map Char.toLower)
  if lower = "inf" ∨ lower = "infinity" then some (1.0 / 0.0)
  else if lower = "nan" then some (0.0 / 0.0)
  else decimal? cs

/-- A number with an optional sign. -/
def read? (s : String) : Option Float :=
  match s.toList with
  | '+' :: cs => unsigned? cs
  | '-' :: cs => (unsigned? cs).map (- ·)
  | cs => unsigned? cs

end Telemetry.FloatText
