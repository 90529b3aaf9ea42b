import Mathlib.Data.List.Forall2
import Telemetry.Proofs.Text.Bytes

/-! Hexadecimal identifiers as they may be written: a character for each digit, in either case. A
reader takes these texts and no others, although it looks at bytes. -/

namespace Telemetry

/-- The two ways to write a digit. -/
def WritesDigit (c : Char) (d : Fin 16) : Prop := c = hexDigit d ∨ c = (hexDigit d).toUpper

instance (c : Char) (d : Fin 16) : Decidable (WritesDigit c d) :=
  inferInstanceAs (Decidable (_ ∨ _))

theorem toNat_hexDigit (d : Fin 16) :
    (hexDigit d).toNat = if d.val < 10 then 48 + d.val else 87 + d.val := by
  revert d
  decide

theorem toNat_toUpper_hexDigit (d : Fin 16) :
    (hexDigit d).toUpper.toNat = if d.val < 10 then 48 + d.val else 55 + d.val := by
  revert d
  decide

theorem ascii_hexDigit (d : Fin 16) :
    (hexDigit d).toNat < 128 ∧ (hexDigit d).toUpper.toNat < 128 := by
  revert d
  decide

theorem hexValue?_eq_some_iff {b : UInt8} {d : Fin 16} : hexValue? b = some d ↔
    b.toNat = (hexDigit d).toNat ∨ b.toNat = (hexDigit d).toUpper.toNat := by
  have := d.isLt
  simp only [hexValue?, toNat_hexDigit, toNat_toUpper_hexDigit]
  by_cases low : d.val < 10
  · simp only [low, if_true]
    split_ifs <;> simp [Fin.ext_iff] <;> omega
  · simp only [low, if_false]
    split_ifs <;> simp [Fin.ext_iff] <;> omega

namespace WritesDigit

variable {c : Char} {d : Fin 16}

theorem iff_toNat : WritesDigit c d ↔
    c.toNat = (hexDigit d).toNat ∨ c.toNat = (hexDigit d).toUpper.toNat := by
  simp only [WritesDigit, Char.toNat_inj]

theorem lt (h : WritesDigit c d) : c.toNat < 128 := by
  obtain ⟨lower, upper⟩ := ascii_hexDigit d
  rcases h with rfl | rfl
  · exact lower
  · exact upper

theorem toLower (h : WritesDigit c d) : c.toLower = hexDigit d := by
  obtain rfl | rfl := h <;> revert d <;> decide

end WritesDigit

theorem utf8EncodeChar_ascii {c : Char} (h : c.toNat < 128) :
    String.utf8EncodeChar c = [c.val.toUInt8] := by
  refine String.utf8EncodeChar_eq_singleton (Char.utf8Size_eq_one_iff.mpr ?_)
  rw [UInt32.le_iff_toNat_le]
  exact Nat.le_of_lt_succ h

theorem toNat_byte {c : Char} (h : c.toNat < 128) : c.val.toUInt8.toNat = c.toNat := by
  rw [UInt32.toNat_toUInt8]
  exact Nat.mod_eq_of_lt (Nat.lt_trans h (by decide))

/-- Digits found among the bytes of a text are digits among its characters: every byte of a longer
encoding has its high bit set. -/
theorem forall₂_bytes {cs : List Char} {ds : List (Fin 16)} :
    List.Forall₂ (fun b d => hexValue? b = some d) (cs.flatMap String.utf8EncodeChar) ds ↔
      List.Forall₂ WritesDigit cs ds := by
  induction cs generalizing ds with
  | nil => simp
  | cons c cs ih =>
    rw [List.flatMap_cons]
    constructor
    · intro h
      have ascii : c.toNat < 128 := by
        obtain ⟨b, bs, first⟩ := List.exists_cons_of_ne_nil (String.utf8EncodeChar_ne_nil (c := c))
        rw [first, List.cons_append] at h
        obtain ⟨d, ds, value, -, rfl⟩ := List.forall₂_cons_left_iff.mp h
        have small : b.toNat < 128 := by
          have := ascii_hexDigit d
          rw [hexValue?_eq_some_iff] at value
          omega
        have same : c.toNat = b.toNat := ascii_of_byte small (first ▸ List.mem_cons_self)
        omega
      rw [utf8EncodeChar_ascii ascii] at h
      obtain ⟨d, ds, value, rest, rfl⟩ := List.forall₂_cons_left_iff.mp h
      rw [hexValue?_eq_some_iff, toNat_byte ascii] at value
      exact .cons (WritesDigit.iff_toNat.mpr value) (ih.mp rest)
    · intro h
      obtain ⟨d, ds, digit, rest, rfl⟩ := List.forall₂_cons_left_iff.mp h
      rw [utf8EncodeChar_ascii digit.lt]
      refine .cons ?_ (ih.mpr rest)
      rw [hexValue?_eq_some_iff, toNat_byte digit.lt]
      exact WritesDigit.iff_toNat.mp digit

namespace HexId

theorem values_eq_ok_iff {k : Nat} {bs : List UInt8} {ds : List (Fin 16)} :
    values k bs = .ok ds ↔ List.Forall₂ (fun b d => hexValue? b = some d) bs ds := by
  induction bs generalizing k ds with
  | nil => simp [values, eq_comm]
  | cons b bs ih =>
    rw [values, List.forall₂_cons_left_iff]
    cases value : hexValue? b with
    | none => simp
    | some d =>
      constructor
      · intro h
        cases rest : values (k + 1) bs with
        | error e =>
          rw [rest] at h
          cases h
        | ok ds' =>
          rw [rest] at h
          cases h
          exact ⟨d, ds', rfl, ih.mp rest, rfl⟩
      · rintro ⟨_, ds', ⟨⟩, rest, rfl⟩
        simp only [ih.mpr rest]
        rfl

/-- A text is read as an identifier if and only if it writes its digits, each in either case. -/
theorem parse_eq_ok_iff {n : Nat} (even : n % 2 = 0) {s : String} {i : HexId n} :
    parse n s = .ok i ↔ List.Forall₂ WritesDigit s.toList i.digits := by
  rw [← forall₂_bytes, ← bytes_eq, ← values_eq_ok_iff (k := 0)]
  constructor
  · intro h
    simp only [parse] at h
    split at h
    · cases h
    · split at h
      · cases h
      · cases read : values 0 s.toUTF8.toList with
        | error e =>
          rw [read] at h
          cases h
        | ok ds =>
          simp only [read] at h
          split at h <;> cases h
          rfl
  · intro read
    have length : s.toUTF8.toList.length = n :=
      (values_eq_ok_iff.mp read).length_eq.trans i.length_eq
    simp only [parse, length, read, i.length_eq]
    rw [if_neg (by omega), if_neg (by simp), dif_pos trivial]

end HexId

end Telemetry
