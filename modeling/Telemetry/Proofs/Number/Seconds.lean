import Mathlib
import Telemetry.Time

/-! Seconds as doubles. Reading one fails for good just if it is at or above `2 ^ 64`: rounding to
nanoseconds makes none too long that is not. -/

namespace Telemetry

namespace Binary

/-- The number that the parts stand for. -/
def value? : Binary → Option ℚ
  | .finite negative m q => some ((if negative then -1 else 1) * m * 2 ^ q)
  | _ => none

theorem significand_lt {f : FloatFormat} {bits : Nat} {negative : Bool} {m : Nat} {q : Int}
    (parts : ofBits f bits = .finite negative m q) : m < 2 * Nat.pow 2 f.fractionBits := by
  have fraction := Nat.mod_lt bits (show 0 < Nat.pow 2 f.fractionBits from Nat.pow_pos two_pos)
  unfold ofBits at parts
  dsimp only at parts
  split_ifs at parts
  all_goals
    obtain ⟨-, rfl, -⟩ := finite.inj parts
    omega

end Binary

/-- More seconds than a length of time can have. -/
def TooLong (x : Float) : Prop := ∃ v, (Binary.ofFloat x).value? = some v ∧ 2 ^ 64 ≤ v

theorem roundHalfEven_le (num den : Nat) : roundHalfEven num den ≤ num + 1 := by
  have := Nat.div_le_self num den
  unfold roundHalfEven
  dsimp only
  split_ifs <;> omega

namespace Instant

theorem scaledRound_reaches {m : Nat} (small : m < 2 ^ 53) (q : Int) :
    UInt64.size * perSecond ≤ scaledRound perSecond m q ↔ (2 ^ 64 : ℚ) ≤ m * 2 ^ q := by
  unfold scaledRound
  split_ifs with whole
  · obtain ⟨k, rfl⟩ := Int.eq_ofNat_of_zero_le whole
    have cast : (2 ^ 64 : ℚ) ≤ m * 2 ^ (k : Int) ↔ 2 ^ 64 ≤ m * 2 ^ k := by
      rw [zpow_natCast]
      exact_mod_cast Iff.rfl
    rw [cast]
    exact Nat.mul_le_mul_right_iff (by decide)
  · -- with a fraction, the number is below its significand
    have rounded := roundHalfEven_le (m * perSecond) (Nat.pow 2 (-q).toNat)
    have shrinks : (m : ℚ) * 2 ^ q ≤ m :=
      mul_le_of_le_one_right (Nat.cast_nonneg m) (zpow_le_one_of_nonpos₀ one_le_two (by omega))
    have small' : (m : ℚ) < 2 ^ 53 := by exact_mod_cast small
    refine iff_of_false ?_ ?_
    · simp only [UInt64.size, perSecond] at *
      omega
    · intro le
      linarith

theorem ofFloat_overflow_iff (x : Float) : ofFloat x = .overflow ↔ TooLong x := by
  unfold ofFloat TooLong
  cases parts : Binary.ofFloat x with
  | nan => simp [readSeconds, Binary.value?]
  | infinite negative => simp [readSeconds, Binary.value?]
  | finite negative m q =>
    have reaches := scaledRound_reaches (Binary.significand_lt parts) q
    simp only [Binary.value?, Option.some.injEq, exists_eq_left', readSeconds]
    by_cases below : (negative && m != 0) = true
    · have sign : negative = true := (Bool.and_eq_true_iff.mp below).1
      have nonneg : (0 : ℚ) ≤ m * 2 ^ q := by positivity
      rw [if_pos below, if_pos sign, neg_one_mul, neg_mul]
      exact iff_of_false nofun (by linarith)
    · have value : (if negative = true then (-1 : ℚ) else 1) * m * 2 ^ q = m * 2 ^ q := by
        cases negative with
        | false => simp
        | true =>
          obtain rfl : m = 0 := by simpa using below
          simp
      rw [if_neg below, value, ← reaches]
      split_ifs with long <;> simp [long]

end Instant

end Telemetry
