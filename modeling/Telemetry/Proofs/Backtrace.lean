import Mathlib.Data.List.TakeWhile
import Telemetry.Backtrace

/-! Where a stack trace is cut. A name is compared with a pattern by their numbers of bytes, by a
boundary between characters and by pairs of characters up to the shorter end; all that comes to a
comparison character by character, since characters that stand for each other have as many bytes. -/

namespace Telemetry.Backtrace

/-! ### Marks in front of a name -/

/-- `rest` is what is left of a text without every copy of a mark in front of it. -/
def Stripped (mark cs rest : List Char) : Prop :=
  (∃ n, cs = (List.replicate n mark).flatten ++ rest) ∧ ¬ mark <+: rest

/-- `rest` is what is left of a name without all brackets in front of it, and then without all pairs
of an underscore and a bracket. -/
def Bare (name rest : List Char) : Prop :=
  ∃ middle, Stripped ['<'] name middle ∧ Stripped ['_', '<'] middle rest

variable {mark cs ps rest rest' : List Char} {c p : Char}

theorem Stripped.again (stripped : Stripped mark cs rest) : Stripped mark (mark ++ cs) rest := by
  obtain ⟨⟨n, rfl⟩, ends⟩ := stripped
  exact ⟨⟨n + 1, by simp [List.replicate_succ]⟩, ends⟩

theorem Stripped.none (ends : ¬ mark <+: cs) : Stripped mark cs cs := ⟨⟨0, rfl⟩, ends⟩

/-- There is one way only to take all marks away. -/
theorem Stripped.unique (h : Stripped mark cs rest) (h' : Stripped mark cs rest') :
    rest = rest' := by
  obtain ⟨⟨n, text⟩, ends⟩ := h
  obtain ⟨⟨n', text'⟩, ends'⟩ := h'
  have further (k : Nat) (r : List Char) : mark <+: (List.replicate (k + 1) mark).flatten ++ r :=
    ⟨(List.replicate k mark).flatten ++ r, by simp [List.replicate_succ]⟩
  induction n generalizing cs n' with
  | zero =>
    cases n' with
    | zero => exact text.symm.trans text'
    | succ n' =>
      have same : rest = _ := text.symm.trans text'
      exact absurd (same ▸ further n' rest') ends
  | succ n ih =>
    cases n' with
    | zero =>
      have same : rest' = _ := text'.symm.trans text
      exact absurd (same ▸ further n rest) ends'
    | succ n' =>
      have same := text.symm.trans text'
      simp only [List.replicate_succ, List.flatten_cons, List.append_assoc] at same
      exact ih rfl n' (List.append_cancel_left same)

theorem stripped_dropWhile (cs : List Char) : Stripped ['<'] cs (cs.dropWhile (· == '<')) := by
  induction cs with
  | nil => exact .none (by simp)
  | cons c cs ih =>
    by_cases bracket : c = '<'
    · subst bracket
      exact ih.again
    · rw [List.dropWhile_cons_of_neg (by simpa using bracket)]
      exact .none (by simpa using Ne.symm bracket)

theorem stripped_dropMarks (cs : List Char) : Stripped ['_', '<'] cs (dropMarks cs) := by
  fun_induction dropMarks cs with
  | case1 cs ih => exact ih.again
  | case2 cs other =>
    refine .none fun ⟨rest, text⟩ => ?_
    exact other rest text.symm

theorem bare_bareName (name : List Char) : Bare name (bareName name) :=
  ⟨_, stripped_dropWhile name, stripped_dropMarks _⟩

theorem Bare.eq_bareName {name : List Char} (bare : Bare name rest) : rest = bareName name := by
  obtain ⟨middle, brackets, marks⟩ := bare
  rw [brackets.unique (stripped_dropWhile name)] at marks
  exact marks.unique (stripped_dropMarks _)

/-! ### Names and patterns -/

/-- A character of a name stands for one of a pattern. -/
def StandsFor (c p : Char) : Prop := c = p ∨ c = '.' ∧ p = ':'

/-- A text has at least as many characters as a pattern, and its first ones stand for those of the
pattern one by one. -/
structure Begins (cs ps : List Char) : Prop where
  long : ps.length ≤ cs.length
  each : ∀ i (_ : i < ps.length) (_ : i < cs.length), StandsFor cs[i] ps[i]

/-- A name starts with a pattern once the marks in front of it are gone. -/
def StartsLike (name pattern : String) : Prop :=
  ∃ rest, Bare name.toList rest ∧ Begins rest pattern.toList

theorem begins_nil : Begins cs [] where
  long := Nat.zero_le _
  each _ inside := absurd inside (Nat.not_lt_zero _)

theorem not_begins_nil : ¬ Begins [] (p :: ps) := fun h => absurd h.long (Nat.not_succ_le_zero _)

theorem begins_cons : Begins (c :: cs) (p :: ps) ↔ StandsFor c p ∧ Begins cs ps := by
  constructor
  · intro h
    refine ⟨h.each 0 (Nat.succ_pos _) (Nat.succ_pos _), Nat.le_of_succ_le_succ h.long, ?_⟩
    intro i inside inside'
    exact h.each (i + 1) (Nat.succ_lt_succ inside) (Nat.succ_lt_succ inside')
  · rintro ⟨first, h⟩
    refine ⟨Nat.succ_le_succ h.long, fun i inside inside' => ?_⟩
    cases i with
    | zero => exact first
    | succ i => exact h.each i (Nat.lt_of_succ_lt_succ inside) (Nat.lt_of_succ_lt_succ inside')

theorem StandsFor.utf8Size (h : StandsFor c p) : c.utf8Size = p.utf8Size := by
  obtain rfl | ⟨rfl, rfl⟩ := h
  · rfl
  · decide

theorem standsFor_iff : (c == p || (c == '.' && p == ':')) = true ↔ StandsFor c p := by
  simp [StandsFor]

/-- The pairs of characters end with the shorter text; that the name is not that one is known from
the bytes. -/
theorem begins_of_bytes (long : byteLength ps ≤ byteLength cs)
    (pairs : ∀ x ∈ cs.zip ps, StandsFor x.1 x.2) : Begins cs ps := by
  induction ps generalizing cs with
  | nil => exact begins_nil
  | cons p ps ih =>
    cases cs with
    | nil =>
      have : 0 < p.utf8Size := p.utf8Size_pos
      simp only [byteLength] at long
      omega
    | cons c cs =>
      have first : StandsFor c p := pairs (c, p) List.mem_cons_self
      simp only [byteLength, first.utf8Size, Nat.add_le_add_iff_left] at long
      exact begins_cons.mpr ⟨first, ih long fun x hx => pairs x (List.mem_cons_of_mem _ hx)⟩

theorem isBoundary_cons (c : Char) (cs : List Char) (n : Nat) :
    isBoundary (c :: cs) (c.utf8Size + n) = isBoundary cs n := by
  have size : 0 < c.utf8Size := c.utf8Size_pos
  rw [isBoundary, if_pos (Nat.le_add_right ..), Nat.add_sub_cancel_left]
  omega

theorem Begins.bytes (h : Begins cs ps) : byteLength ps ≤ byteLength cs ∧
    isBoundary cs (byteLength ps) = true ∧ ∀ x ∈ cs.zip ps, StandsFor x.1 x.2 := by
  induction ps generalizing cs with
  | nil => exact ⟨Nat.zero_le _, by simp [byteLength, isBoundary], by simp⟩
  | cons p ps ih =>
    cases cs with
    | nil => exact absurd h not_begins_nil
    | cons c cs =>
      obtain ⟨first, h⟩ := begins_cons.mp h
      obtain ⟨long, boundary, pairs⟩ := ih h
      refine ⟨?_, ?_, ?_⟩
      · simp only [byteLength, first.utf8Size]
        omega
      · rw [byteLength, ← first.utf8Size, isBoundary_cons]
        exact boundary
      · rintro x hx
        rw [List.zip_cons_cons, List.mem_cons] at hx
        obtain rfl | hx := hx
        · exact first
        · exact pairs x hx

theorem startsWith_iff (name pattern : String) :
    startsWith name pattern = true ↔ StartsLike name pattern := by
  have compared : startsWith name pattern = true ↔
      Begins (bareName name.toList) pattern.toList := by
    simp only [startsWith, Bool.or_eq_true, decide_eq_true_eq, Bool.not_eq_true']
    split
    · next apart =>
      refine iff_of_false Bool.false_ne_true fun h => ?_
      obtain ⟨long, boundary, -⟩ := h.bytes
      rw [boundary] at apart
      exact apart.elim (Nat.not_lt.mpr long) Bool.noConfusion
    · next together =>
      rw [List.all_eq_true]
      have long := Nat.not_lt.mp (not_or.mp together).1
      constructor
      · exact fun pairs => begins_of_bytes long fun x hx => standsFor_iff.mp (pairs x hx)
      · exact fun h x hx => standsFor_iff.mpr (h.bytes.2.2 x hx)
  rw [compared]
  constructor
  · exact fun h => ⟨_, bare_bareName _, h⟩
  · rintro ⟨rest, bare, h⟩
    exact bare.eq_bareName ▸ h

example : startsWith "<<_<_<é..ß::run>" "é::ß" = true := by decide +kernel

/-! ### Frames -/

/-- The function of a frame starts like one of those that only carry a panic or an error. -/
def AtBorder (f : Frame) : Prop :=
  ∃ name, f.function = some name ∧ ∃ pattern ∈ borderPatterns, StartsLike name pattern

/-- The longest front of some frames of which none is at the border. -/
structure LongestInside (front frames : List Frame) : Prop where
  part : front <+: frames
  inside : ∀ f ∈ front, ¬ AtBorder f
  longest : ∀ other, other <+: frames → (∀ f ∈ other, ¬ AtBorder f) → other <+: front

theorem isBorder_iff (f : Frame) : isBorder f = true ↔ AtBorder f := by
  unfold isBorder AtBorder
  cases f.function with
  | none => simp
  | some name => simp [startsWith_iff]

theorem inside_iff (f : Frame) : (!isBorder f) = true ↔ ¬ AtBorder f := by
  rw [← isBorder_iff]
  simp

/-- A front of which every member passes a test is one of the longest front of that kind. -/
theorem front_takeWhile {α : Type} {test : α → Bool} {xs front : List α} (part : front <+: xs)
    (all : ∀ x ∈ front, test x = true) : front <+: xs.takeWhile test := by
  obtain ⟨rest, rfl⟩ := part
  rw [List.takeWhile_append_of_pos all]
  exact List.prefix_append ..

theorem longestInside_trim (s : Stacktrace) : LongestInside (trim s).frames s.frames where
  part := List.takeWhile_prefix _
  inside f hf := (inside_iff f).mp (List.mem_takeWhile_imp (p := fun f => !isBorder f) hf)
  longest _ part all := front_takeWhile part fun f hf => (inside_iff f).mpr (all f hf)

/-- A name is compared with a pattern character by character. A stack trace is cut at the first
frame whose function starts like a pattern of the border, and cutting it again changes nothing. -/
theorem trim_at_border (name pattern : String) (s : Stacktrace) :
    (startsWith name pattern = true ↔ StartsLike name pattern) ∧
      LongestInside (trim s).frames s.frames ∧ trim (trim s) = trim s := by
  refine ⟨startsWith_iff name pattern, longestInside_trim s, ?_⟩
  exact congrArg Stacktrace.mk List.takeWhile_idem

end Telemetry.Backtrace
