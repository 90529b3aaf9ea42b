import Telemetry.Proofs.Text.Bytes
import Telemetry.Url.Percent

/-! Percent-encoding a second time changes nothing, since an escape is made of characters that no part
of a URL escapes; and a text without percent signs has nothing to decode. -/

namespace Telemetry.Percent

theorem mem_byte {b : UInt8} {c : Char} (h : c ∈ byte b) :
    c = '%' ∨ ∃ n < 16, c = upperDigit n := by
  have size := b.toNat_lt_size
  rw [UInt8.size] at size
  simp only [byte, List.mem_cons, List.not_mem_nil, or_false] at h
  rcases h with h | h | h
  · exact .inl h
  · exact .inr ⟨b.toNat / 16, by omega, h⟩
  · exact .inr ⟨b.toNat % 16, by omega, h⟩

theorem mem_encode {escaped : Char → Bool} {cs : List Char} {c : Char}
    (h : c ∈ encode escaped cs) :
    (c ∈ cs ∧ escaped c = false) ∨ c = '%' ∨ ∃ n < 16, c = upperDigit n := by
  obtain ⟨d, hd, hc⟩ := List.mem_flatMap.mp h
  unfold encodeChar at hc
  split at hc
  · obtain ⟨b, -, hb⟩ := List.mem_flatMap.mp hc
    exact .inr (mem_byte hb)
  · next plain =>
    obtain rfl := List.mem_singleton.mp hc
    exact .inl ⟨hd, by simpa using plain⟩

/-- Nothing is left to escape, if escapes are made of characters that are not escaped. -/
theorem escaped_encode {escaped : Char → Bool} (percent : escaped '%' = false)
    (digits : ∀ n < 16, escaped (upperDigit n) = false) {cs : List Char} {c : Char}
    (h : c ∈ encode escaped cs) : escaped c = false := by
  rcases mem_encode h with ⟨-, plain⟩ | rfl | ⟨n, hn, rfl⟩
  · exact plain
  · exact percent
  · exact digits n hn

theorem inUserinfo_encode {cs : List Char} {c : Char} (h : c ∈ encode inUserinfo cs) :
    inUserinfo c = false :=
  escaped_encode (by decide) (by decide) h

theorem inPath_encode {cs : List Char} {c : Char} (h : c ∈ encode inPath cs) : inPath c = false :=
  escaped_encode (by decide) (by decide) h

theorem encode_eq_self {escaped : Char → Bool} {cs : List Char}
    (h : ∀ c ∈ cs, escaped c = false) : encode escaped cs = cs := by
  induction cs with
  | nil => rfl
  | cons c cs ih =>
    have hc : encodeChar escaped c = [c] := by
      rw [encodeChar, h c (List.mem_cons_self ..)]
      rfl
    have hcs := ih fun d hd => h d (List.mem_cons_of_mem _ hd)
    unfold encode at hcs ⊢
    rw [List.flatMap_cons, hc, hcs]
    rfl

theorem encode_eq_nil {escaped : Char → Bool} {cs : List Char} (h : encode escaped cs = []) :
    cs = [] := by
  cases cs with
  | nil => rfl
  | cons c cs =>
    have first := List.flatMap_eq_nil_iff.mp h c (List.mem_cons_self ..)
    unfold encodeChar at first
    split at first
    · cases hb : String.utf8EncodeChar c with
      | nil => exact absurd hb String.utf8EncodeChar_ne_nil
      | cons b bs =>
        rw [hb] at first
        cases first
    · cases first

/-- What stands in a part of a URL as it is comes after the blank. -/
theorem inPath_of_le_blank {c : Char} (h : c.toNat ≤ 0x20) : inPath c = true := by
  have : isControl c = true ∨ c = ' ' := by
    by_cases blank : c.toNat = 0x20
    · exact .inr (Char.ext (UInt32.toNat_inj.mp blank))
    · left
      simp only [isControl, Bool.or_eq_true, decide_eq_true_eq]
      omega
  rcases this with control | rfl
  · simp [inPath, inFragment, control]
  · decide

theorem decodeBytes_eq_self {bs : List UInt8} (h : 37 ∉ bs) : decodeBytes bs = bs := by
  fun_induction decodeBytes bs with
  | case1 => rfl
  | case2 a b rest _ _ _ _ _ => exact absurd (List.mem_cons_self ..) h
  | case3 a b rest _ _ => exact absurd (List.mem_cons_self ..) h
  | case4 p a b rest _ ih => rw [ih fun hm => h (List.mem_cons_of_mem _ hm)]
  | case5 b rest _ ih => rw [ih fun hm => h (List.mem_cons_of_mem _ hm)]

/-- A text without percent signs is what it decodes to. -/
theorem decode?_eq_self {cs : List Char} (h : '%' ∉ cs) : decode? cs = some cs := by
  have plain : 37 ∉ (String.ofList cs).toUTF8.toList := by
    intro hm
    have := mem_of_bytes (c := '%') (by decide) hm
    rw [String.toList_ofList] at this
    exact h this
  rw [decode?, decodeBytes_eq_self plain, fromUTF8?_bytes, Option.map_some, String.toList_ofList]

end Telemetry.Percent
