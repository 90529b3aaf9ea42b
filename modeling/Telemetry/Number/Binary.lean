/-! Binary floating-point numbers taken apart. A number is `significand * 2 ^ exponent` with a sign,
an infinity, or not a number; everything that prints or rounds a float works on these exact parts.
-/

namespace Telemetry

/-- A binary format: the widths of its fraction and exponent fields. -/
structure FloatFormat where
  fractionBits : Nat
  exponentBits : Nat
deriving DecidableEq, Repr

namespace FloatFormat

/-- Sixty-four bits: 52 of fraction and 11 of exponent. -/
def double : FloatFormat := ⟨52, 11⟩

/-- Thirty-two bits: 23 of fraction and 8 of exponent. -/
def single : FloatFormat := ⟨23, 8⟩

/-- The exponent of the unit in the last place of the smallest numbers. -/
def minExponent (f : FloatFormat) : Int :=
  2 - (Nat.pow 2 (f.exponentBits - 1) : Nat) - f.fractionBits

end FloatFormat

/-- The parts of a floating-point number. -/
inductive Binary where
  | nan
  | infinite (negative : Bool)
  | finite (negative : Bool) (significand : Nat) (exponent : Int)
deriving DecidableEq, Repr

namespace Binary

/-- The number a bit pattern stands for. -/
def ofBits (f : FloatFormat) (bits : Nat) : Binary :=
  let fraction := bits % Nat.pow 2 f.fractionBits
  let field := bits / Nat.pow 2 f.fractionBits % Nat.pow 2 f.exponentBits
  let negative := bits / Nat.pow 2 (f.fractionBits + f.exponentBits) % 2 == 1
  if field = Nat.pow 2 f.exponentBits - 1 then
    if fraction = 0 then .infinite negative else .nan
  else if field = 0 then .finite negative fraction f.minExponent
  else .finite negative (Nat.pow 2 f.fractionBits + fraction) (f.minExponent + (field - 1 : Nat))

/-- The parts of a double. -/
def ofFloat (x : Float) : Binary := ofBits .double x.toBits.toNat

/-- The parts of a single. -/
def ofFloat32 (x : Float32) : Binary := ofBits .single x.toBits.toNat

end Binary

/-- A quotient rounded to the nearest integer, a tie going to the even one. -/
def roundHalfEven (num den : Nat) : Nat :=
  let q := num / den
  let twice := 2 * (num % den)
  if twice < den then q else if den < twice then q + 1 else if q % 2 = 0 then q else q + 1

/-- `significand * 2 ^ exponent * scale`, rounded to the nearest integer. -/
def scaledRound (scale significand : Nat) (exponent : Int) : Nat :=
  if 0 ≤ exponent then significand * Nat.pow 2 exponent.toNat * scale
  else roundHalfEven (significand * scale) (Nat.pow 2 (-exponent).toNat)

/-- `significand * 2 ^ exponent`, rounded up to an integer. -/
def ceilShift (significand : Nat) (exponent : Int) : Nat :=
  if 0 ≤ exponent then significand * Nat.pow 2 exponent.toNat
  else
    let den := Nat.pow 2 (-exponent).toNat
    (significand + (den - 1)) / den

end Telemetry
