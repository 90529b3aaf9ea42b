import Telemetry.Number.Reader

/-! Decimal digits of whole numbers: what is written is digits only, and their value is the number.
-/

namespace Telemetry

theorem isDigit_of_mem_toString {n : Nat} {c : Char} (h : c ∈ (toString n).toList) :
    c.isDigit = true := by
  rw [Nat.toString_eq_repr, Nat.toList_repr] at h
  exact Nat.isDigit_of_mem_toDigits (by decide) (by decide) h

theorem toString_ne_nil (n : Nat) : (toString n).toList ≠ [] := by
  rw [Nat.toString_eq_repr, Nat.toList_repr]
  exact Nat.toDigits_ne_nil

theorem digitsValue_toString (n : Nat) : FloatText.digitsValue (toString n).toList = n := by
  rw [Nat.toString_eq_repr, Nat.toList_repr]
  have step : (fun (m : Nat) (c : Char) => m * 10 + (c.toNat - '0'.toNat)) =
      fun m c => 10 * m + (c.toNat - '0'.toNat) := by
    funext m c
    rw [Nat.mul_comm]
  rw [FloatText.digitsValue, step]
  exact Nat.ofDigitChars_ten_toDigits

/-- The digits at the front of a text that goes on without one. -/
theorem takeWhile_toString (n : Nat) {c : Char} (hc : c.isDigit = false) (rest : List Char) :
    ((toString n).toList ++ c :: rest).takeWhile Char.isDigit = (toString n).toList := by
  rw [List.takeWhile_append_of_pos fun _ h => isDigit_of_mem_toString h]
  simp [hc]

theorem dropWhile_toString (n : Nat) {c : Char} (hc : c.isDigit = false) (rest : List Char) :
    ((toString n).toList ++ c :: rest).dropWhile Char.isDigit = c :: rest := by
  rw [List.dropWhile_append_of_pos fun _ h => isDigit_of_mem_toString h]
  simp [hc]

end Telemetry
