import Telemetry.Json.Printer
import Telemetry.Json.Reader

/-! Quoted strings read back: every escape stands for the character it was written for, and the
closing quote is the first one that is not escaped. -/

namespace Telemetry.Json.Reader

theorem hex?_escapeDigit {n : Nat} (h : n < 16) : hex? (escapeDigit n) = some n := by
  revert n
  decide

/-- The four digits of a control character. -/
theorem unicode?_control {c : Char} (h : c.toNat < 0x20) (rest : List Char) :
    unicode? ('0' :: '0' :: escapeDigit (c.toNat / 16) :: escapeDigit (c.toNat % 16) :: rest) =
      some (c, rest) := by
  have zero : hex? '0' = some 0 := rfl
  have high : hex? (escapeDigit (c.toNat / 16)) = some (c.toNat / 16) := hex?_escapeDigit (by omega)
  have low : hex? (escapeDigit (c.toNat % 16)) = some (c.toNat % 16) := hex?_escapeDigit (by omega)
  have value : ((0 * 16 + 0) * 16 + c.toNat / 16) * 16 + c.toNat % 16 = c.toNat := by omega
  simp only [unicode?, hex4?, zero, high, low, Option.bind_eq_bind, Option.bind_some, value]
  rw [if_neg (by omega), if_neg (by omega), Char.ofNat_toNat]

theorem string?_escape (c : Char) (fuel : Nat) (acc rest : List Char) :
    string? (fuel + 1) acc ((escape c).toList ++ rest) = string? fuel (c :: acc) rest := by
  unfold escape
  split
  · subst_vars; rfl
  split
  · subst_vars; rfl
  split
  · subst_vars; rfl
  split
  · subst_vars; rfl
  split
  · subst_vars; rfl
  split
  · subst_vars; rfl
  split
  · subst_vars; rfl
  split
  · next control =>
    simp only [String.toList_append, String.toList_ofList]
    show string? (fuel + 1) acc ('\\' :: 'u' :: '0' :: '0' :: _ :: _ :: rest) = _
    rw [string?, unicode?_control control]
    rfl
  · next plain =>
    rw [String.toList_singleton, List.singleton_append, string?, if_neg plain]
    -- neither a quote nor a backslash, so only the branch of plain characters is left
    all_goals
      intros
      simp_all

/-- The rest of a string after its opening quote. -/
theorem string?_escapes (cs : List Char) {fuel : Nat} (h : cs.length < fuel)
    (acc rest : List Char) :
    string? fuel acc ((String.join (cs.map escape)).toList ++ '"' :: rest) =
      some (String.ofList (acc.reverse ++ cs), rest) := by
  obtain ⟨fuel, rfl⟩ : ∃ n, fuel = n + 1 := ⟨fuel - 1, by omega⟩
  induction cs generalizing fuel acc with
  | nil => simp [string?]
  | cons c cs ih =>
    rw [List.length_cons] at h
    obtain ⟨fuel, rfl⟩ : ∃ n, fuel = n + 1 := ⟨fuel - 1, by omega⟩
    rw [List.map_cons, String.join_cons, String.toList_append, List.append_assoc, string?_escape,
      ih _ fuel (by omega)]
    simp

theorem length_le_escapes (cs : List Char) :
    cs.length ≤ (String.join (cs.map escape)).toList.length := by
  induction cs with
  | nil => simp
  | cons c cs ih =>
    have one : 1 ≤ (escape c).toList.length := by
      unfold escape
      repeat' split
      all_goals simp
    rw [List.map_cons, String.join_cons, String.toList_append, List.length_append, List.length_cons]
    omega

theorem toList_quote (s : String) :
    (quote s).toList = '"' :: ((String.join (s.toList.map escape)).toList ++ ['"']) := by
  simp [quote]

/-- A quoted string is read back, whatever follows it. -/
theorem string?_quote (s : String) (rest : List Char) :
    ∃ body, (quote s).toList ++ rest = '"' :: body ∧
      string? (body.length + 1) [] body = some (s, rest) := by
  refine ⟨(String.join (s.toList.map escape)).toList ++ '"' :: rest, by simp [toList_quote], ?_⟩
  have enough := length_le_escapes s.toList
  rw [string?_escapes s.toList (by rw [List.length_append]; omega)]
  simp

end Telemetry.Json.Reader
