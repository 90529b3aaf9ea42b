import Mathlib.Algebra.Group.Nat.Defs
import Mathlib.Data.List.Basic
import Telemetry.Proofs.Text.Digits
import Telemetry.Proofs.Text.Pieces
import Telemetry.Url.Host

/-! Addresses of four numbers read back from their text: the text has four decimal parts, each of
which is read as its number, and four numbers below 256 make up the address again. -/

namespace Telemetry.Host

theorem digits?_concat {base k n : Nat} {cs : List Char} (hb : base ≤ 16) (hk : k < base)
    (h : digits? base cs = some n) :
    digits? base (cs ++ [Nat.digitChar k]) = some (base * n + k) := by
  have value : ∀ j < 16,
      (if 48 ≤ j.digitChar.toNat ∧ j.digitChar.toNat ≤ 57 then j.digitChar.toNat - 48
        else if 97 ≤ j.digitChar.toNat ∧ j.digitChar.toNat ≤ 102 then j.digitChar.toNat - 87
        else if 65 ≤ j.digitChar.toNat ∧ j.digitChar.toNat ≤ 70 then j.digitChar.toNat - 55
        else 99) = j := by decide
  unfold digits? at h ⊢
  rw [List.foldlM_append, h, Nat.mul_comm]
  simp only [Option.bind_eq_bind, Option.bind_some, List.foldlM_cons, List.foldlM_nil,
    value k (by omega), if_pos hk]
  rfl

/-- The digits of a number are read as the number. -/
theorem digits?_toDigits {base : Nat} (hb : 1 < base) (h16 : base ≤ 16) (n : Nat) :
    digits? base (Nat.toDigits base n) = some n := by
  have one : ∀ k < base, digits? base [Nat.digitChar k] = some k := by
    intro k hk
    have none : digits? base [] = some 0 := rfl
    have := digits?_concat h16 hk none
    rwa [Nat.mul_zero, Nat.zero_add] at this
  induction n using Nat.base_induction base hb with
  | single m hm => rw [Nat.toDigits_of_lt_base hm, one m hm]
  | digit m k hk hm ih =>
    rw [← Nat.toDigits_append_toDigits hb hm hk, Nat.toDigits_of_lt_base hk]
    exact digits?_concat h16 hk ih

theorem mem_toDigits {base n : Nat} {c : Char} (hb : 1 < base) (h : c ∈ Nat.toDigits base n) :
    ∃ k < base, c = Nat.digitChar k := by
  induction n using Nat.base_induction base hb with
  | single m hm =>
    rw [Nat.toDigits_of_lt_base hm, List.mem_singleton] at h
    exact ⟨m, hm, h⟩
  | digit m k hk hm ih =>
    rw [← Nat.toDigits_append_toDigits hb hm hk, Nat.toDigits_of_lt_base hk, List.mem_append,
      List.mem_singleton] at h
    rcases h with h | h
    · exact ih h
    · exact ⟨k, hk, h⟩

theorem forall_toString {P : Char → Prop} (digits : ∀ k < 10, P (Nat.digitChar k)) (n : Nat) :
    ∀ c ∈ (toString n).toList, P c := by
  intro c h
  rw [Nat.toString_eq_repr, Nat.toList_repr] at h
  obtain ⟨k, hk, rfl⟩ := mem_toDigits (by decide) h
  exact digits k hk

theorem digits?_toString (n : Nat) : digits? 10 (toString n).toList = some n := by
  rw [Nat.toString_eq_repr, Nat.toList_repr]
  exact digits?_toDigits (by decide) (by decide) n

/-- A decimal number is not taken for an octal one: no leading zero is written. -/
theorem number?_toString {n : Nat} (h : n < 256) : number? (toString n).toList = some n := by
  have all : ∀ m < 256, number? (Nat.toDigits 10 m) = some m := by decide +kernel
  rw [Nat.toString_eq_repr, Nat.toList_repr]
  exact all n h

/-- One of the four numbers of an address, the last of which is the zeroth. -/
def quarter (n i : Nat) : Nat := n / Nat.pow 256 i % 256

theorem quarter_lt (n i : Nat) : quarter n i < 256 := Nat.mod_lt _ (by decide)

/-- The parts of an address as text. -/
def quarters (n : Nat) : List (List Char) := [3, 2, 1, 0].map fun i => (toString (quarter n i)).toList

theorem addressText_eq (n : Nat) : addressText n = ['.'].intercalate (quarters n) := rfl

theorem dot_not_mem_quarters {n : Nat} {p : List Char} (hp : p ∈ quarters n) : '.' ∉ p := by
  obtain ⟨i, -, rfl⟩ := List.mem_map.mp hp
  intro hm
  exact absurd (isDigit_of_mem_toString hm) (by decide)

theorem numericParts_addressText (n : Nat) : numericParts (addressText n) = quarters n := by
  have pieces : splitList '.' (addressText n) = quarters n := by
    rw [addressText_eq]
    exact splitList_intercalate (by simp [quarters]) fun _ => dot_not_mem_quarters
  have last : (quarters n).getLast? ≠ some [] := by
    intro h
    have : (toString (quarter n 0)).toList = [] := Option.some.inj h
    exact toString_ne_nil _ this
  rw [numericParts, pieces]
  exact if_neg last

theorem endsInNumber_addressText (n : Nat) : endsInNumber (addressText n) = true := by
  have last : (quarters n).getLast? = some (toString (quarter n 0)).toList := rfl
  have digits : ((toString (quarter n 0)).toList).all Char.isDigit = true :=
    List.all_eq_true.mpr fun _ => isDigit_of_mem_toString
  have full : (toString (quarter n 0)).toList.isEmpty = false := by
    rw [List.isEmpty_eq_false_iff]
    exact toString_ne_nil _
  rw [endsInNumber, numericParts_addressText, last]
  simp only [full, digits, Bool.not_false, Bool.and_self, Bool.true_or]

theorem mapM_number?_quarters (n : Nat) :
    (quarters n).mapM number? = some ([3, 2, 1, 0].map (quarter n)) := by
  have read : ∀ i, number? (toString (quarter n i)).toList = some (quarter n i) :=
    fun i => number?_toString (quarter_lt n i)
  simp only [quarters, List.map_cons, List.map_nil, List.mapM_cons, List.mapM_nil, read]
  rfl

theorem address?_addressText (n : Nat) : address? (addressText n) = some (n % 2 ^ 32) := by
  have small := quarter_lt n
  have sum : quarter n 0 + quarter n 3 * Nat.pow 256 3 + quarter n 2 * Nat.pow 256 2 +
      quarter n 1 * Nat.pow 256 1 = n % 2 ^ 32 := by
    simp only [quarter, Nat.pow_eq, Nat.reducePow]
    omega
  have fits : ([quarter n 3, quarter n 2, quarter n 1].any fun m => 255 < m) = false := by
    have (i : Nat) : ¬ 255 < quarter n i := by
      have := small i
      omega
    simp [this]
  have last : ¬ Nat.pow 256 1 ≤ quarter n 0 := Nat.not_le.mpr (small 0)
  unfold address?
  simp only [numericParts_addressText, mapM_number?_quarters]
  show (if (quarters n).length > 4 then none else _) = _
  rw [if_neg (by simp [quarters])]
  show (if ([quarter n 3, quarter n 2, quarter n 1].any fun m => 255 < m) = true then none
    else if Nat.pow 256 1 ≤ quarter n 0 then none
    else some (quarter n 0 + quarter n 3 * Nat.pow 256 3 + quarter n 2 * Nat.pow 256 2 +
      quarter n 1 * Nat.pow 256 1)) = _
  rw [fits, if_neg Bool.false_ne_true, if_neg last, sum]

/-- An address is read back from its text, as far as it fits. -/
theorem addressText_mod (n : Nat) : addressText (n % 2 ^ 32) = addressText n := by
  have same : ∀ i ∈ [3, 2, 1, 0], quarter (n % 2 ^ 32) i = quarter n i := by
    intro i hi
    simp only [List.mem_cons, List.not_mem_nil, or_false] at hi
    rcases hi with rfl | rfl | rfl | rfl <;>
      simp only [quarter, Nat.pow_eq, Nat.reducePow] <;> omega
  rw [addressText_eq, addressText_eq, quarters, quarters]
  congr 1
  apply List.map_congr_left
  intro i hi
  rw [same i hi]

/-- The text of an address has digits and full stops only. -/
theorem forall_addressText {P : Char → Prop} (dot : P '.') (digits : ∀ k < 10, P (Nat.digitChar k))
    (n : Nat) : ∀ c ∈ addressText n, P c := by
  intro c h
  rw [addressText_eq] at h
  rcases mem_intercalate h with rfl | ⟨p, hp, hc⟩
  · exact dot
  · obtain ⟨i, -, rfl⟩ := List.mem_map.mp hp
    exact forall_toString digits _ c hc

theorem addressText_ne_nil (n : Nat) : addressText n ≠ [] := by
  intro h
  have ends := endsInNumber_addressText n
  rw [h] at ends
  exact absurd ends (by decide)

end Telemetry.Host
