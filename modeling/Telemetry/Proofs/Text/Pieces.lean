import Mathlib.Data.List.DropRight
import Telemetry.Text.Blank

/-! The pieces of a text between separators are those of the list it is. And a text that is trimmed has
nothing to trim at either end. -/

namespace Telemetry

theorem splitList_eq_splitOn (sep : Char) (cs : List Char) : splitList sep cs = cs.splitOn sep := by
  induction cs with
  | nil => rfl
  | cons c cs ih =>
    rw [splitList, List.splitOn_cons_eq_if_modifyHead, ih]
    by_cases hc : c = sep
    · rw [if_pos hc, if_pos (by simpa using hc)]
    · rw [if_neg hc, if_neg (by simpa using hc)]
      cases h : cs.splitOn sep with
      | nil => exact absurd h (List.splitOn_ne_nil sep cs)
      | cons p ps => rfl

/-- A piece that ends at the first separator. -/
theorem splitList_append {sep : Char} {cs : List Char} (h : sep ∉ cs) (rest : List Char) :
    splitList sep (cs ++ sep :: rest) = cs :: splitList sep rest := by
  rw [splitList_eq_splitOn, splitList_eq_splitOn,
    List.splitOn_append_cons_self_of_not_mem h]

theorem splitList_intercalate {sep : Char} {ps : List (List Char)} (hne : ps ≠ [])
    (h : ∀ p ∈ ps, sep ∉ p) : splitList sep ([sep].intercalate ps) = ps := by
  rw [splitList_eq_splitOn, List.splitOn_intercalate sep h hne]

theorem mem_intercalate {sep c : Char} {ps : List (List Char)} (h : c ∈ [sep].intercalate ps) :
    c = sep ∨ ∃ p ∈ ps, c ∈ p := by
  induction ps with
  | nil => cases h
  | cons p ps ih =>
    by_cases last : ps = []
    · rw [last, List.intercalate_singleton] at h
      exact .inr ⟨p, List.mem_cons_self .., h⟩
    · rw [List.intercalate_cons_of_ne_nil last, List.mem_append, List.mem_append,
        List.mem_singleton] at h
      rcases h with (h | h) | h
      · exact .inr ⟨p, List.mem_cons_self .., h⟩
      · exact .inl h
      · rcases ih h with h | ⟨q, hq, h⟩
        · exact .inl h
        · exact .inr ⟨q, List.mem_cons_of_mem _ hq, h⟩

theorem mem_intercalate_of_mem {sep c : Char} {p : List Char} {ps : List (List Char)} (hp : p ∈ ps)
    (h : c ∈ p) : c ∈ [sep].intercalate ps := by
  induction ps with
  | nil => cases hp
  | cons q qs ih =>
    by_cases last : qs = []
    · obtain rfl : p = q := by simpa [last] using hp
      rwa [last, List.intercalate_singleton]
    · rw [List.intercalate_cons_of_ne_nil last, List.mem_append]
      rcases List.mem_cons.mp hp with rfl | hp
      · exact .inl (List.mem_append_left _ h)
      · exact .inr (ih hp)

theorem not_mem_of_mem_splitList {sep : Char} {cs p : List Char} (h : p ∈ splitList sep cs) :
    sep ∉ p := by
  induction cs generalizing p with
  | nil =>
    rw [splitList, List.mem_singleton] at h
    rw [h]
    exact List.not_mem_nil
  | cons c cs ih =>
    rw [splitList] at h
    by_cases hc : c = sep
    · rw [if_pos hc] at h
      rcases List.mem_cons.mp h with rfl | h
      · exact List.not_mem_nil
      · exact ih h
    · rw [if_neg hc] at h
      cases rest : splitList sep cs with
      | nil => exact absurd (splitList_eq_splitOn sep cs ▸ rest) (List.splitOn_ne_nil sep cs)
      | cons q qs =>
        rw [rest] at h ih
        rcases List.mem_cons.mp h with rfl | h
        · exact List.not_mem_cons_of_ne_of_not_mem (Ne.symm hc) (ih List.mem_cons_self)
        · exact ih (List.mem_cons_of_mem q h)

/-- The pieces of a text between separators: there is at least one, none of them holds a separator,
and with a separator between any two of them they are the text. -/
structure Pieces (sep : Char) (text : String) (ps : List String) : Prop where
  present : ps ≠ []
  plain : ∀ p ∈ ps, sep ∉ p.toList
  joined : [sep].intercalate (ps.map String.toList) = text.toList

/-- Every text has its pieces, and only those. -/
theorem pieces_iff {sep : Char} {text : String} {ps : List String} :
    Pieces sep text ps ↔ splitText sep text = ps := by
  constructor
  · rintro ⟨present, plain, joined⟩
    have split : splitList sep text.toList = ps.map String.toList := by
      rw [← joined]
      refine splitList_intercalate (by simpa using present) fun p hp => ?_
      obtain ⟨q, hq, rfl⟩ := List.mem_map.mp hp
      exact plain q hq
    simp [splitText, split]
  · rintro rfl
    refine ⟨?_, fun p hp => ?_, ?_⟩
    · simp [splitText, splitList_eq_splitOn, List.splitOn_ne_nil]
    · obtain ⟨q, hq, rfl⟩ := List.mem_map.mp hp
      rw [String.toList_ofList]
      exact not_mem_of_mem_splitList hq
    · have same : (splitText sep text).map String.toList = splitList sep text.toList := by
        simp [splitText, Function.comp_def]
      rw [same, splitList_eq_splitOn, List.intercalate_splitOn]

/-- The pieces of two texts with a separator between them are those of the one and then those of the
other. -/
theorem splitText_append (sep : Char) (a b : String) :
    splitText sep (a ++ String.singleton sep ++ b) = splitText sep a ++ splitText sep b := by
  simp [splitText, splitList_eq_splitOn, List.splitOn_append_cons_self]

/-! ### Trimming -/

theorem dropWhile_eq_self {p : α → Bool} {cs : List α} (h : ∀ c ∈ cs.head?, p c = false) :
    cs.dropWhile p = cs := by
  cases cs with
  | nil => rfl
  | cons c cs => exact List.dropWhile_cons_of_neg (by simp [h c rfl])

theorem trimList_eq_self {p : Char → Bool} {cs : List Char} (h : ∀ c ∈ cs, p c = false) :
    trimList p cs = cs := by
  have front : cs.dropWhile p = cs :=
    dropWhile_eq_self fun c hc => h c (List.mem_of_mem_head? hc)
  have back : cs.reverse.dropWhile p = cs.reverse :=
    dropWhile_eq_self fun c hc => h c (List.mem_reverse.mp (List.mem_of_mem_head? hc))
  rw [trimList, front, back, List.reverse_reverse]

theorem head?_trimList {p : Char → Bool} {cs : List Char} {c : Char}
    (h : c ∈ (trimList p cs).head?) : p c = false := by
  have start : trimList p cs <+: cs.dropWhile p := List.rdropWhile_prefix p _
  obtain ⟨rest, whole⟩ := start
  have first : (cs.dropWhile p).head? = some c := by
    rw [← whole, List.head?_append, Option.mem_def.mp h]
    rfl
  have kept := List.head?_dropWhile_not p cs
  rwa [first] at kept

/-- A text that is trimmed has nothing to trim, also after one more character in front. -/
theorem trimList_cons_trimList {p : Char → Bool} {c : Char} (hc : p c = true) (cs : List Char) :
    trimList p (c :: trimList p cs) = trimList p cs := by
  have front : (c :: trimList p cs).dropWhile p = trimList p cs := by
    rw [List.dropWhile_cons_of_pos hc]
    exact dropWhile_eq_self fun d hd => head?_trimList hd
  have back : (trimList p cs).reverse.dropWhile p = (trimList p cs).reverse := by
    rw [trimList, List.reverse_reverse, List.dropWhile_idempotent]
  rw [trimList, front, back, List.reverse_reverse]

/-- `core` is `cs` without those in `p` at either end. -/
structure Trimmed (p : Char → Bool) (cs core : List Char) : Prop where
  around : ∃ front back, cs = front ++ core ++ back ∧ (∀ c ∈ front, p c) ∧ ∀ c ∈ back, p c
  first : ∀ c ∈ core.head?, p c = false
  last : ∀ c ∈ core.getLast?, p c = false

theorem dropWhile_append_self {p : Char → Bool} {front core : List Char} (h : ∀ c ∈ front, p c)
    (first : ∀ c ∈ core.head?, p c = false) : (front ++ core).dropWhile p = core := by
  rw [List.dropWhile_append_of_pos h, dropWhile_eq_self first]

theorem trimmed_iff {p : Char → Bool} {cs core : List Char} :
    Trimmed p cs core ↔ trimList p cs = core := by
  constructor
  · rintro ⟨⟨front, back, rfl, before, after⟩, first, last⟩
    have behind : ∀ c ∈ back.reverse, p c := fun c hc => after c (List.mem_reverse.mp hc)
    by_cases empty : core = []
    · subst empty
      have all : (front ++ [] ++ back).dropWhile p = [] := by
        simp only [List.append_nil, List.dropWhile_eq_nil_iff, List.mem_append]
        rintro c (hc | hc)
        · exact before c hc
        · exact after c hc
      rw [trimList, all]
      rfl
    · have start : ∀ c ∈ (core ++ back).head?, p c = false := by
        rwa [List.head?_append_of_ne_nil core empty]
      rw [← List.head?_reverse] at last
      rw [trimList, List.append_assoc, dropWhile_append_self before start, List.reverse_append,
        dropWhile_append_self behind last, List.reverse_reverse]
  · rintro rfl
    refine ⟨⟨cs.takeWhile p, ((cs.dropWhile p).reverse.takeWhile p).reverse, ?_, ?_, ?_⟩,
      fun c => head?_trimList, fun c hc => ?_⟩
    · rw [trimList, List.append_assoc, ← List.reverse_append, List.takeWhile_append_dropWhile,
        List.reverse_reverse, List.takeWhile_append_dropWhile]
    · exact fun c hc => List.mem_takeWhile_imp hc
    · exact fun c hc => List.mem_takeWhile_imp (List.mem_reverse.mp hc)
    · rw [trimList, List.getLast?_reverse] at hc
      have kept := List.head?_dropWhile_not p (cs.dropWhile p).reverse
      rwa [Option.mem_def.mp hc] at kept

end Telemetry
