import Telemetry.Text.Hex

/-! Hexadecimal identifiers read back from their text. The text is one byte for each digit, in lower
case, which is one of the forms that readers take. -/

namespace Telemetry

theorem toList_loop (bs : ByteArray) (i : Nat) (acc : List UInt8) :
    ByteArray.toList.loop bs i acc = acc.reverse ++ bs.data.toList.drop i := by
  fun_induction ByteArray.toList.loop with
  | case1 i acc hi ih =>
    have hi' : i < bs.data.toList.length := by simpa using hi
    rw [ih, List.drop_eq_getElem_cons hi', List.reverse_cons, List.append_assoc]
    simp [ByteArray.get!, getElem!_pos bs.data i (by simpa using hi)]
  | case2 i acc hi =>
    have hi' : bs.data.toList.length ≤ i := by simpa using hi
    rw [List.drop_eq_nil_of_le hi', List.append_nil]

/-- The bytes of an array, in order. -/
theorem toList_bytes (bs : ByteArray) : bs.toList = bs.data.toList := by
  rw [ByteArray.toList, toList_loop]
  rfl

/-- The byte of a digit. -/
def hexByte (d : Fin 16) : UInt8 := (hexDigit d).val.toUInt8

theorem hexValue?_hexByte (d : Fin 16) : hexValue? (hexByte d) = some d := by
  revert d
  decide

theorem utf8EncodeChar_hexDigit (d : Fin 16) :
    String.utf8EncodeChar (hexDigit d) = [hexByte d] := by
  revert d
  decide

namespace HexId

/-- The text of an identifier is one byte for each digit. -/
theorem bytes_text {n : Nat} (i : HexId n) : i.text.toUTF8.toList = i.digits.map hexByte := by
  have bytes : (i.digits.map hexDigit).flatMap String.utf8EncodeChar = i.digits.map hexByte := by
    induction i.digits with
    | nil => rfl
    | cons d ds ih =>
      rw [List.map_cons, List.flatMap_cons, ih, utf8EncodeChar_hexDigit]
      rfl
  rw [toList_bytes]
  show ((i.digits.map hexDigit).flatMap String.utf8EncodeChar).toByteArray.data.toList = _
  rw [bytes, List.toList_data_toByteArray]

theorem values_digits (k : Nat) (ds : List (Fin 16)) : values k (ds.map hexByte) = .ok ds := by
  induction ds generalizing k with
  | nil => rfl
  | cons d ds ih =>
    rw [List.map_cons, values, hexValue?_hexByte]
    simp only [ih]
    rfl

/-- An identifier of whole bytes is read back from its text. -/
theorem parse_text {n : Nat} (i : HexId n) (even : n % 2 = 0) : parse n i.text = .ok i := by
  have length : i.text.toUTF8.toList.length = n := by
    rw [bytes_text, List.length_map, i.length_eq]
  simp only [parse, length]
  rw [if_neg (by omega), if_neg (by simp), bytes_text, values_digits]
  simp only [i.length_eq, dif_pos]

end HexId

namespace Uuid

/-- An identifier is read back from its plain form. -/
theorem parse?_text (u : Uuid) : parse? u.text = some u := by
  have length : (u.digits.map hexByte).length = 32 := by rw [List.length_map, u.length_eq]
  have plain : digitBytes? u.text.toUTF8.toList = some (u.digits.map hexByte) := by
    rw [HexId.bytes_text, digitBytes?, if_pos length]
  rw [parse?, plain]
  simp only [Option.bind_eq_bind, Option.bind_some, HexId.values_digits, u.length_eq, dif_pos]

theorem isNil_random (v : Nat) : (random v).isNil = false := by
  refine Bool.eq_false_iff.mpr fun nil => ?_
  have same : random v = Uuid.nil := by simpa [isNil] using nil
  have version := congrArg (fun u => u.digits[12]?) same
  simp [random, Uuid.nil, HexId.zero, HexId.ofNat] at version

end Uuid

end Telemetry
