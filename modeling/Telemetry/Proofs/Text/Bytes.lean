import Telemetry.Proofs.Text.Hex

/-! The bytes of a text: those of its characters one after the other, of which only a line break has
the byte of a line break. -/

namespace Telemetry

theorem bytes_eq (s : String) : s.toUTF8.toList = s.toList.flatMap String.utf8EncodeChar := by
  obtain ⟨cs, rfl⟩ : ∃ cs, s = String.ofList cs := ⟨s.toList, String.ofList_toList.symm⟩
  rw [toList_bytes, String.toList_ofList]
  show (cs.flatMap String.utf8EncodeChar).toByteArray.data.toList = _
  rw [List.toList_data_toByteArray]

theorem bytes_append (s t : String) :
    (s ++ t).toUTF8.toList = s.toUTF8.toList ++ t.toUTF8.toList := by
  simp only [bytes_eq, String.toList_append, List.flatMap_append]

theorem bytes_line (s : String) (rest : List UInt8) :
    (s ++ "\n").toUTF8.toList ++ rest = s.toUTF8.toList ++ 10 :: rest := by
  have newline : "\n".toUTF8.toList = [10] := by
    rw [bytes_eq]
    decide
  rw [bytes_append, newline, List.append_assoc]
  rfl

theorem length_bytes (s : String) : s.toUTF8.toList.length = s.utf8ByteSize := by
  rw [toList_bytes]
  rfl

theorem fromUTF8?_bytes (s : String) : String.fromUTF8? ⟨s.toUTF8.toList.toArray⟩ = some s := by
  have same : (⟨s.toUTF8.toList.toArray⟩ : ByteArray) = s.toUTF8 := by
    rw [toList_bytes]
  rw [same]
  exact dif_pos s.isValidUTF8

/-- A byte below 128 is that of its character, since every byte of a longer encoding has its high
bit set. -/
theorem ascii_of_byte {c : Char} {b : UInt8} (hb : b.toNat < 128)
    (h : b ∈ String.utf8EncodeChar c) : c.val.toNat = b.toNat := by
  unfold String.utf8EncodeChar at h
  simp only at h
  split at h
  · have same := congrArg UInt8.toNat (List.mem_singleton.mp h)
    rw [UInt8.toNat_ofNat'] at same
    omega
  · exfalso
    split at h
    · simp [← UInt8.toNat_inj] at h
      omega
    · split at h
      · simp [← UInt8.toNat_inj] at h
        omega
      · simp [← UInt8.toNat_inj] at h
        omega

/-- A byte below 128 that occurs among the bytes of a text comes from its character. -/
theorem mem_of_bytes {s : String} {c : Char} (hc : c.val.toNat < 128)
    (h : c.val.toUInt8 ∈ s.toUTF8.toList) : c ∈ s.toList := by
  rw [bytes_eq, List.mem_flatMap] at h
  obtain ⟨d, hd, hb⟩ := h
  have value : c.val.toUInt8.toNat = c.val.toNat := by
    rw [UInt32.toNat_toUInt8]
    omega
  have same := ascii_of_byte (by omega) hb
  rw [value] at same
  have : d = c := Char.ext (UInt32.toNat_inj.mp same)
  exact this ▸ hd

end Telemetry
