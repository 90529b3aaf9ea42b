import Mathlib.Data.List.Induction
import Mathlib.Data.List.TakeWhile
import Telemetry.Proofs.Url.Address

/-! Addresses of eight words read back from their text: the run of zeros that a double colon stands
for is the only thing the text leaves out, and a reader fills it up again. -/

namespace Telemetry.Host

/-! ### One word -/

theorem not_mem_word {c : Char} (h : ∀ k < 16, c ≠ Nat.digitChar k) (n : Nat) :
    c ∉ Nat.toDigits 16 n := by
  intro hm
  obtain ⟨k, hk, same⟩ := mem_toDigits (by decide) hm
  exact h k hk same

theorem colon_not_mem_word (n : Nat) : ':' ∉ Nat.toDigits 16 n := not_mem_word (by decide) n

theorem dot_not_mem_word (n : Nat) : '.' ∉ Nat.toDigits 16 n := not_mem_word (by decide) n

theorem word?_toDigits {n : Nat} (h : n < 65536) : words?.word? (Nat.toDigits 16 n) = some n := by
  have short : (Nat.toDigits 16 n).length ≤ 4 :=
    (Nat.length_toDigits_le_iff (by decide) (by decide)).mpr h
  have full : (Nat.toDigits 16 n).isEmpty = false := by
    rw [List.isEmpty_eq_false_iff]
    exact Nat.toDigits_ne_nil
  rw [words?.word?, full, if_neg (by simpa using short)]
  exact digits?_toDigits (by decide) (by decide) n

theorem digits?_lt {base n : Nat} {cs : List Char} (h : digits? base cs = some n) :
    n < base ^ cs.length := by
  induction cs using List.reverseRecOn generalizing n with
  | nil =>
    cases h
    exact Nat.one_pos
  | append_singleton cs c ih =>
    unfold digits? at h ih
    rw [List.foldlM_append] at h
    obtain ⟨m, hm, last⟩ := Option.bind_eq_some_iff.mp h
    have below := ih hm
    simp only [List.foldlM_cons, List.foldlM_nil] at last
    obtain ⟨k, next, same⟩ := Option.bind_eq_some_iff.mp last
    obtain ⟨small, value⟩ := Option.ite_none_right_eq_some.mp next
    cases same
    rw [List.length_append, List.length_singleton, Nat.pow_succ, ← Option.some.inj value]
    calc m * base + _ < m * base + base := Nat.add_lt_add_left small _
      _ = (m + 1) * base := (Nat.succ_mul m base).symm
      _ ≤ base ^ cs.length * base := Nat.mul_le_mul_right _ below

theorem word?_lt {w : List Char} {n : Nat} (h : words?.word? w = some n) : n < 65536 := by
  unfold words?.word? at h
  split at h
  · cases h
  · next size =>
    have short : w.length ≤ 4 := by
      simp only [Bool.or_eq_true, decide_eq_true_eq, not_or, Nat.not_lt] at size
      exact size.2
    exact Nat.lt_of_lt_of_le (digits?_lt h) (Nat.pow_le_pow_right (by decide) short)

/-! ### The words of one side -/

/-- Words as text, with colons between them. -/
def wordsText (ns : List Nat) : List Char := [':'].intercalate (ns.map (Nat.toDigits 16))

theorem wordsText_cons (n m : Nat) (ns : List Nat) :
    wordsText (n :: m :: ns) = Nat.toDigits 16 n ++ ':' :: wordsText (m :: ns) := by
  rw [wordsText, List.map_cons, List.map_cons, List.intercalate_cons_cons]
  simp [wordsText]

/-- Words have digits and colons only. -/
theorem forall_wordsText {P : Char → Prop} (colon : P ':') (digits : ∀ k < 16, P (Nat.digitChar k))
    (ns : List Nat) : ∀ c ∈ wordsText ns, P c := by
  intro c h
  rcases mem_intercalate h with rfl | ⟨w, hw, hc⟩
  · exact colon
  · obtain ⟨n, -, rfl⟩ := List.mem_map.mp hw
    obtain ⟨k, hk, rfl⟩ := mem_toDigits (by decide) hc
    exact digits k hk

theorem contains_dot_wordsText (ns : List Nat) : (wordsText ns).contains '.' = false := by
  rw [List.contains_eq_mem, decide_eq_false_iff_not]
  intro h
  exact forall_wordsText (P := (· ≠ '.')) (by decide) (by decide) ns '.' h rfl

theorem go_words {n : Nat} {ns : List Nat} (h : ∀ m ∈ n :: ns, m < 65536) :
    words?.go ((n :: ns).map (Nat.toDigits 16)) = some (n :: ns) := by
  induction ns generalizing n with
  | nil =>
    have plain : (Nat.toDigits 16 n).contains '.' = false := by
      rw [List.contains_eq_mem, decide_eq_false_iff_not]
      exact dot_not_mem_word n
    simp only [List.map_cons, List.map_nil, words?.go, plain, word?_toDigits (h n (by simp))]
    rfl
  | cons m ms ih =>
    have rest := ih fun k hk => h k (List.mem_cons_of_mem _ hk)
    rw [List.map_cons] at rest ⊢
    rw [List.map_cons, words?.go, word?_toDigits (h n (by simp)), rest]
    · rfl
    · exact fun none => by cases none

theorem words?_wordsText {ns : List Nat} (h : ∀ n ∈ ns, n < 65536) :
    words? (wordsText ns) = some ns := by
  cases ns with
  | nil => rfl
  | cons n ns =>
    have pieces : splitList ':' (wordsText (n :: ns)) = (n :: ns).map (Nat.toDigits 16) := by
      apply splitList_intercalate (by simp)
      intro w hw
      obtain ⟨m, -, rfl⟩ := List.mem_map.mp hw
      exact colon_not_mem_word m
    have full : (wordsText (n :: ns)).isEmpty = false := by
      rw [List.isEmpty_eq_false_iff]
      intro empty
      rw [empty] at pieces
      have := (List.cons.inj pieces).1
      exact Nat.toDigits_ne_nil this.symm
    rw [words?, full, pieces]
    exact go_words h

theorem mem_of_mapM {f : α → Option β} {xs : List α} {ys : List β} (h : xs.mapM f = some ys) {y : β}
    (hy : y ∈ ys) : ∃ x ∈ xs, f x = some y := by
  induction xs generalizing ys with
  | nil =>
    cases h
    cases hy
  | cons x xs ih =>
    rw [List.mapM_cons] at h
    obtain ⟨z, hz, h⟩ := Option.bind_eq_some_iff.mp h
    obtain ⟨zs, hzs, h⟩ := Option.bind_eq_some_iff.mp h
    cases h
    rcases List.mem_cons.mp hy with rfl | hy
    · exact ⟨x, List.mem_cons_self .., hz⟩
    · obtain ⟨w, hw, same⟩ := ih hzs hy
      exact ⟨w, List.mem_cons_of_mem _ hw, same⟩

theorem embedded?_lt {cs : List Char} {ns : List Nat} (h : embedded? cs = some ns) :
    ∀ n ∈ ns, n < 65536 := by
  obtain ⟨numbers, read, h⟩ := Option.bind_eq_some_iff.mp h
  have small : ∀ n ∈ numbers, n < 256 := by
    intro n hn
    obtain ⟨p, -, hp⟩ := mem_of_mapM read hn
    obtain ⟨-, hp⟩ := Option.ite_none_left_eq_some.mp hp
    obtain ⟨m, -, hm⟩ := Option.bind_eq_some_iff.mp hp
    obtain ⟨below, same⟩ := Option.ite_none_right_eq_some.mp hm
    cases same
    exact below
  split at h
  · next a b c d =>
    cases h
    simp only [List.forall_mem_cons, List.not_mem_nil, false_implies, implies_true,
      and_true] at small ⊢
    omega
  · cases h

theorem go_lt {ws : List (List Char)} {ns : List Nat} (h : words?.go ws = some ns) :
    ∀ n ∈ ns, n < 65536 := by
  fun_induction words?.go ws generalizing ns with
  | case1 =>
    cases h
    simp
  | case2 last dotted => exact embedded?_lt h
  | case3 last plain =>
    obtain ⟨n, hn, rfl⟩ := Option.map_eq_some_iff.mp h
    simpa using word?_lt hn
  | case4 w ws _ ih =>
    obtain ⟨n, hn, h⟩ := Option.bind_eq_some_iff.mp h
    obtain ⟨ms, hms, h⟩ := Option.bind_eq_some_iff.mp h
    cases h
    intro m hm
    rcases List.mem_cons.mp hm with rfl | hm
    · exact word?_lt hn
    · exact ih hms m hm

theorem words?_lt {cs : List Char} {ns : List Nat} (h : words? cs = some ns) :
    ∀ n ∈ ns, n < 65536 := by
  unfold words? at h
  split at h
  · cases h
    simp
  · exact go_lt h

/-! ### The double colon -/

theorem splitDouble_append {w : List Char} (h : ':' ∉ w) (rest : List Char) :
    splitDouble (w ++ rest) = (w ++ (splitDouble rest).1, (splitDouble rest).2) := by
  induction w with
  | nil => rfl
  | cons c w ih =>
    have hc : c ≠ ':' := fun same => h (same ▸ List.mem_cons_self ..)
    rw [List.cons_append, splitDouble, ih fun hm => h (List.mem_cons_of_mem _ hm)]
    · rfl
    · intro tail hcolon
      exact absurd hcolon hc

theorem wordsText_head (n : Nat) (ns : List Nat) :
    ∃ c cs, wordsText (n :: ns) = c :: cs ∧ c ≠ ':' := by
  cases digits : Nat.toDigits 16 n with
  | nil => exact absurd digits Nat.toDigits_ne_nil
  | cons c cs =>
    have hc : c ≠ ':' := fun same =>
      colon_not_mem_word n (by rw [digits, same]; exact List.mem_cons_self ..)
    cases ns with
    | nil => exact ⟨c, cs, by rw [wordsText, List.map_singleton, List.intercalate_singleton, digits], hc⟩
    | cons m ms => exact ⟨c, _, by rw [wordsText_cons, digits, List.cons_append], hc⟩

/-- Words have no double colon, and none begins at their end. -/
theorem splitDouble_wordsText (ns : List Nat) (rest : List Char) :
    splitDouble (wordsText ns ++ rest) =
      (wordsText ns ++ (splitDouble rest).1, (splitDouble rest).2) := by
  induction ns with
  | nil => rfl
  | cons n ns ih =>
    cases ns with
    | nil =>
      rw [wordsText, List.map_singleton, List.intercalate_singleton]
      exact splitDouble_append (colon_not_mem_word n) rest
    | cons m ms =>
      have single : splitDouble (':' :: (wordsText (m :: ms) ++ rest)) =
          (':' :: (splitDouble (wordsText (m :: ms) ++ rest)).1,
            (splitDouble (wordsText (m :: ms) ++ rest)).2) := by
        rw [splitDouble]
        intro tail _ twice
        obtain ⟨c, cs, text, hc⟩ := wordsText_head m ms
        rw [text] at twice
        exact hc (List.cons.inj twice).1
      rw [wordsText_cons, List.append_assoc, splitDouble_append (colon_not_mem_word n),
        List.cons_append, single, ih]
      simp

/-! ### The longest run of zeros -/

theorem zeros_at {ws : List Nat} {i n : Nat}
    (run : n = ((ws.drop i).takeWhile (· == 0)).length) :
    ws = ws.take i ++ List.replicate n 0 ++ ws.drop (i + n) := by
  have zeros : (ws.drop i).takeWhile (· == 0) = List.replicate n 0 := by
    rw [List.eq_replicate_iff]
    refine ⟨run.symm, fun m hm => ?_⟩
    simpa using (List.mem_takeWhile_imp hm)
  have rest : (ws.drop i).dropWhile (· == 0) = ws.drop (i + n) := by
    have parts := List.takeWhile_append_dropWhile (p := (· == 0)) (l := ws.drop i)
    have dropped := congrArg (List.drop n) parts
    rw [List.drop_left' run.symm, List.drop_drop] at dropped
    exact dropped
  calc ws = ws.take i ++ ws.drop i := (List.take_append_drop i ws).symm
    _ = ws.take i ++ ((ws.drop i).takeWhile (· == 0) ++ (ws.drop i).dropWhile (· == 0)) := by
      rw [List.takeWhile_append_dropWhile]
    _ = ws.take i ++ List.replicate n 0 ++ ws.drop (i + n) := by
      rw [zeros, rest, List.append_assoc]

/-- What the search has found at any time is a run of at least two zeros. -/
theorem longestZeros_run {ws : List Nat} {i n : Nat} (h : longestZeros ws = some (i, n)) :
    2 ≤ n ∧ n = ((ws.drop i).takeWhile (· == 0)).length := by
  refine List.foldlRecOn (motive := fun best => ∀ i n, best = some (i, n) →
    2 ≤ n ∧ n = ((ws.drop i).takeWhile (· == 0)).length) _ _ ?_ ?_ i n h
  · intro i n none
    cases none
  · intro best ih j _ i n now
    simp only at now
    split at now
    · exact ih i n now
    · next long =>
      split at now
      · next k m =>
        split at now
        · cases now
          exact ⟨by omega, rfl⟩
        · exact ih i n now
      · cases now
        exact ⟨by omega, rfl⟩

theorem length_take_of_run {ws : List Nat} {i n : Nat} (long : 2 ≤ n)
    (run : n = ((ws.drop i).takeWhile (· == 0)).length) : i + n ≤ ws.length := by
  have within : n ≤ (ws.drop i).length := by
    rw [run]
    exact (List.takeWhile_prefix _).length_le
  rw [List.length_drop] at within
  omega

/-! ### Whole addresses -/

theorem sixText_none {ws : List Nat} (h : longestZeros ws = none) : sixText ws = wordsText ws := by
  unfold sixText
  rw [h]
  rfl

theorem sixText_some {ws : List Nat} {i n : Nat} (h : longestZeros ws = some (i, n)) :
    sixText ws = wordsText (ws.take i) ++ ':' :: ':' :: wordsText (ws.drop (i + n)) := by
  unfold sixText
  rw [h]
  show wordsText _ ++ [':', ':'] ++ wordsText _ = _
  rw [List.append_assoc]
  rfl

theorem sixWords?_spec {cs : List Char} {ws : List Nat} (h : sixWords? cs = some ws) :
    ws.length = 8 ∧ ∀ n ∈ ws, n < 65536 := by
  unfold sixWords? at h
  split at h
  · split at h
    · cases h
    obtain ⟨ns, read, h⟩ := Option.bind_eq_some_iff.mp h
    obtain ⟨eight, same⟩ := Option.ite_none_right_eq_some.mp h
    cases same
    exact ⟨eight, words?_lt read⟩
  · split at h
    · cases h
    obtain ⟨a, ha, h⟩ := Option.bind_eq_some_iff.mp h
    obtain ⟨b, hb, h⟩ := Option.bind_eq_some_iff.mp h
    obtain ⟨room, same⟩ := Option.ite_none_right_eq_some.mp h
    cases same
    constructor
    · simp only [List.length_append, List.length_replicate]
      omega
    · intro n hn
      rw [List.mem_append, List.mem_append, List.mem_replicate] at hn
      rcases hn with (hn | ⟨-, rfl⟩) | hn
      · exact words?_lt ha n hn
      · decide
      · exact words?_lt hb n hn

/-- An address is read back from its text. -/
theorem sixWords?_sixText {ws : List Nat} (eight : ws.length = 8) (small : ∀ n ∈ ws, n < 65536) :
    sixWords? (sixText ws) = some ws := by
  cases zeros : longestZeros ws with
  | none =>
    have parts : splitDouble (wordsText ws) = (wordsText ws, none) := by
      have := splitDouble_wordsText ws []
      rwa [List.append_nil, splitDouble, List.append_nil] at this
    have full : (wordsText ws).isEmpty = false := by
      cases ws with
      | nil => cases eight
      | cons n ns =>
        obtain ⟨c, cs, text, -⟩ := wordsText_head n ns
        rw [text]
        rfl
    rw [sixText_none zeros, sixWords?, parts]
    simp only [full, Bool.false_eq_true, if_false, words?_wordsText small, Option.bind_eq_bind,
      Option.bind_some, if_pos eight]
  | some best =>
    obtain ⟨i, n⟩ := best
    obtain ⟨long, run⟩ := longestZeros_run zeros
    have within := length_take_of_run long run
    have front : words? (wordsText (ws.take i)) = some (ws.take i) :=
      words?_wordsText fun m hm => small m (List.mem_of_mem_take hm)
    have back : words? (wordsText (ws.drop (i + n))) = some (ws.drop (i + n)) :=
      words?_wordsText fun m hm => small m (List.mem_of_mem_drop hm)
    have parts : splitDouble (sixText ws) =
        (wordsText (ws.take i), some (wordsText (ws.drop (i + n)))) := by
      rw [sixText_some zeros, splitDouble_wordsText, splitDouble, List.append_nil]
    have missing : 8 - (ws.take i).length - (ws.drop (i + n)).length = n := by
      rw [List.length_take, List.length_drop]
      omega
    have room : (ws.take i).length + (ws.drop (i + n)).length ≤ 7 := by
      rw [List.length_take, List.length_drop]
      omega
    rw [sixWords?, parts]
    simp only [contains_dot_wordsText, Bool.false_eq_true, if_false, front, back,
      Option.bind_eq_bind, Option.bind_some, if_pos room, missing]
    rw [← zeros_at run]

theorem forall_sixText {P : Char → Prop} (colon : P ':') (digits : ∀ k < 16, P (Nat.digitChar k))
    (ws : List Nat) : ∀ c ∈ sixText ws, P c := by
  have words := forall_wordsText colon digits
  cases zeros : longestZeros ws with
  | none =>
    rw [sixText_none zeros]
    exact words ws
  | some best =>
    rw [sixText_some zeros]
    intro c h
    simp only [List.mem_append, List.mem_cons] at h
    rcases h with h | rfl | rfl | h
    · exact words _ c h
    · exact colon
    · exact colon
    · exact words _ c h

theorem bracketed?_sixText {ws : List Nat} (eight : ws.length = 8) (small : ∀ n ∈ ws, n < 65536) :
    bracketed? ('[' :: (sixText ws ++ [']'])) = some ('[' :: (sixText ws ++ [']'])) := by
  have last : ('[' :: (sixText ws ++ [']'])).getLast? = some ']' := by
    rw [← List.cons_append]
    exact List.getLast?_concat ..
  have inner : (('[' :: (sixText ws ++ [']'])).drop 1).dropLast = sixText ws := by
    rw [List.drop_succ_cons, List.drop_zero, List.dropLast_concat]
  rw [bracketed?, if_pos last, inner, sixWords?_sixText eight small]
  rfl

end Telemetry.Host
