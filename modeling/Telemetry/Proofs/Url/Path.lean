import Telemetry.Proofs.Text.Pieces
import Telemetry.Proofs.Url.Percent
import Telemetry.Url.Basic

/-! Paths as the parser leaves them: segments with nothing to escape, none of which is a dot segment.
Parsing the text of such segments gives the segments again. -/

namespace Telemetry.Url

/-- A segment with its characters escaped. -/
structure Clean (s : List Char) : Prop where
  plain : ∀ c ∈ s, Percent.inPath c = false
  noSlash : ∀ c ∈ s, isSlash true c = false

/-- A segment that a parse leaves as it is. -/
structure Settled (s : List Char) : Prop extends Clean s where
  single : isSingleDot s = false
  double : isDoubleDot s = false

theorem settled_nil : Settled [] where
  plain := by simp
  noSlash := by simp
  single := by decide
  double := by decide

/-! ### Pieces between slashes -/

theorem noSlash_of_splitSlashes {special : Bool} {cs p : List Char}
    (h : p ∈ splitSlashes special cs) : ∀ c ∈ p, isSlash special c = false := by
  induction cs generalizing p with
  | nil =>
    obtain rfl := List.mem_singleton.mp h
    simp
  | cons c cs ih =>
    rw [splitSlashes] at h
    split at h
    · rcases List.mem_cons.mp h with rfl | h
      · simp
      · exact ih h
    · next hc =>
      have hc : isSlash special c = false := by simpa using hc
      split at h
      · obtain rfl := List.mem_singleton.mp h
        simpa using hc
      · next q qs pieces =>
        rw [pieces] at ih
        rcases List.mem_cons.mp h with rfl | h
        · intro d hd
          rcases List.mem_cons.mp hd with rfl | hd
          · exact hc
          · exact ih (List.mem_cons_self ..) d hd
        · exact ih (List.mem_cons_of_mem _ h)

theorem splitSlashes_ne_nil (special : Bool) (cs : List Char) : splitSlashes special cs ≠ [] := by
  cases cs with
  | nil => exact List.cons_ne_nil _ _
  | cons c cs =>
    rw [splitSlashes]
    split
    · exact List.cons_ne_nil _ _
    · split <;> exact List.cons_ne_nil _ _

theorem splitSlashes_plain {special : Bool} {s : List Char}
    (h : ∀ c ∈ s, isSlash special c = false) : splitSlashes special s = [s] := by
  induction s with
  | nil => rfl
  | cons c s ih =>
    rw [splitSlashes, ih fun d hd => h d (List.mem_cons_of_mem _ hd),
      if_neg (by simp [h c (List.mem_cons_self ..)])]

/-- A slash ends a piece. -/
theorem splitSlashes_append (special : Bool) (cs rest : List Char) :
    splitSlashes special (cs ++ '/' :: rest) =
      splitSlashes special cs ++ splitSlashes special rest := by
  induction cs with
  | nil =>
    have slash : isSlash special '/' = true := rfl
    simp only [List.nil_append, splitSlashes, slash, if_true, List.singleton_append]
  | cons c cs ih =>
    rw [List.cons_append, splitSlashes, splitSlashes, ih]
    split
    · rfl
    · cases pieces : splitSlashes special cs with
      | nil => exact absurd pieces (splitSlashes_ne_nil special cs)
      | cons p ps => rfl

/-- The pieces of the text of segments, after its first slash, are the segments. -/
theorem splitSlashes_pathText {special : Bool} {s : List Char} {ss : List (List Char)}
    (h : ∀ p ∈ s :: ss, ∀ c ∈ p, isSlash special c = false) :
    splitSlashes special (s ++ pathText ss) = s :: ss := by
  induction ss generalizing s with
  | nil =>
    rw [pathText, List.flatMap_nil, List.append_nil]
    exact splitSlashes_plain (h s (List.mem_cons_self ..))
  | cons t ts ih =>
    have later := ih fun p hp => h p (List.mem_cons_of_mem _ hp)
    rw [pathText, List.flatMap_cons, List.cons_append, splitSlashes_append,
      splitSlashes_plain (h s (List.mem_cons_self ..))]
    exact congrArg _ later

theorem pathText_splitSlashes (cs : List Char) : pathText (splitSlashes false cs) = '/' :: cs := by
  induction cs with
  | nil => rfl
  | cons c cs ih =>
    rw [splitSlashes]
    split
    · next slash =>
      have : c = '/' := by simpa [isSlash] using slash
      rw [this, ← ih]
      rfl
    · split
      · next none => exact absurd none (splitSlashes_ne_nil false cs)
      · next p ps pieces =>
        rw [pieces] at ih
        have tail : p ++ pathText ps = cs := (List.cons.inj ih).2
        rw [← tail]
        rfl

theorem clean_encode {s : List Char} (h : ∀ c ∈ s, isSlash true c = false) :
    Clean (Percent.encode Percent.inPath s) where
  plain _ hc := Percent.inPath_encode hc
  noSlash c hc := by
    rcases Percent.mem_encode hc with ⟨hc, -⟩ | rfl | ⟨n, hn, rfl⟩
    · exact h c hc
    · decide
    · clear hc
      revert n
      decide

/-! ### Dot segments -/

theorem resolve_double {s : List Char} (h : isDoubleDot s = true) (acc rest : List (List Char)) :
    resolve false acc (s :: rest) =
      resolve false (if rest.isEmpty then [] :: acc.tail else acc.tail) rest := by
  rw [resolve.eq_def]
  simp only [if_pos h]
  match acc with
  | [] => rfl
  | [_] => rfl
  | _ :: _ :: _ => rfl

theorem resolve_single {s : List Char} (double : isDoubleDot s = false) (h : isSingleDot s = true)
    (acc rest : List (List Char)) :
    resolve false acc (s :: rest) =
      resolve false (if rest.isEmpty then [] :: acc else acc) rest := by
  rw [resolve.eq_def]
  simp only [double, h, Bool.false_eq_true, if_false, if_true]

theorem resolve_cons_settled {s : List Char} (h : Settled s) (acc rest : List (List Char)) :
    resolve false acc (s :: rest) = resolve false (s :: acc) rest := by
  rw [resolve.eq_def]
  simp only [h.double, h.single, Bool.false_eq_true, if_false, Bool.false_and]
  split <;> rfl

theorem resolve_settled {ss : List (List Char)} (h : ∀ s ∈ ss, Settled s)
    (acc : List (List Char)) : resolve false acc ss = acc.reverse ++ ss := by
  induction ss generalizing acc with
  | nil => rw [resolve, List.append_nil]
  | cons s ss ih =>
    rw [resolve_cons_settled (h s (List.mem_cons_self ..)),
      ih fun t ht => h t (List.mem_cons_of_mem _ ht), List.reverse_cons, List.append_assoc]
    rfl

/-- One segment: what is kept is settled, and the last segment leaves something behind. -/
theorem resolve_step {s : List Char} {acc : List (List Char)} (clean : Clean s)
    (done : ∀ t ∈ acc, Settled t) (rest : List (List Char)) :
    ∃ acc', resolve false acc (s :: rest) = resolve false acc' rest ∧
      (∀ t ∈ acc', Settled t) ∧ (rest = [] → acc' ≠ []) := by
  have ended : ∀ acc : List (List Char), (∀ t ∈ acc, Settled t) →
      (∀ t ∈ (if rest.isEmpty then [] :: acc else acc), Settled t) ∧
        (rest = [] → (if rest.isEmpty then [] :: acc else acc) ≠ []) := by
    intro acc done
    cases rest with
    | nil =>
      refine ⟨?_, fun _ => List.cons_ne_nil _ _⟩
      intro t ht
      rcases List.mem_cons.mp ht with rfl | ht
      · exact settled_nil
      · exact done t ht
    | cons r rs => exact ⟨done, fun none => absurd none (List.cons_ne_nil _ _)⟩
  cases double : isDoubleDot s with
  | true =>
    exact ⟨_, resolve_double double acc rest, ended _ fun t ht => done t (List.mem_of_mem_tail ht)⟩
  | false =>
    cases single : isSingleDot s with
    | true => exact ⟨_, resolve_single double single acc rest, ended acc done⟩
    | false =>
      have settled : Settled s := { clean with single, double }
      refine ⟨_, resolve_cons_settled settled acc rest, ?_, fun _ => List.cons_ne_nil _ _⟩
      intro t ht
      rcases List.mem_cons.mp ht with rfl | ht
      · exact settled
      · exact done t ht

theorem resolve_settles {acc ss : List (List Char)} (done : ∀ s ∈ acc, Settled s)
    (clean : ∀ s ∈ ss, Clean s) (full : acc ≠ [] ∨ ss ≠ []) :
    (∀ s ∈ resolve false acc ss, Settled s) ∧ resolve false acc ss ≠ [] := by
  induction ss generalizing acc with
  | nil =>
    rw [resolve]
    have full : acc ≠ [] := by simpa using full
    exact ⟨fun s hs => done s (List.mem_reverse.mp hs), by simpa using full⟩
  | cons s ss ih =>
    obtain ⟨acc', same, done', full'⟩ := resolve_step (clean s (List.mem_cons_self ..)) done ss
    rw [same]
    apply ih done' fun t ht => clean t (List.mem_cons_of_mem _ ht)
    by_cases last : ss = []
    · exact .inl (full' last)
    · exact .inr last

/-! ### Whole paths -/

/-- The paths of URLs with a special scheme. -/
def SettledPath (path : List Char) : Prop :=
  ∃ s ss, path = pathText (s :: ss) ∧ ∀ t ∈ s :: ss, Settled t

theorem settledPath_of_ne_nil {ss : List (List Char)} (full : ss ≠ [])
    (settled : ∀ s ∈ ss, Settled s) : SettledPath (pathText ss) := by
  cases ss with
  | nil => exact absurd rfl full
  | cons s ss => exact ⟨s, ss, rfl, settled⟩

theorem settledPath_absolutePath (p : Nat) (cs : List Char) :
    SettledPath (absolutePath (.special p) cs) := by
  have segments : ∀ cs, SettledPath (pathText (segments (.special p) cs)) := by
    intro cs
    have clean : ∀ s ∈ (splitSlashes true cs).map (Percent.encode Percent.inPath), Clean s := by
      intro s hs
      obtain ⟨t, ht, rfl⟩ := List.mem_map.mp hs
      exact clean_encode (noSlash_of_splitSlashes ht)
    have full : (splitSlashes true cs).map (Percent.encode Percent.inPath) ≠ [] := by
      rw [ne_eq, List.map_eq_nil_iff]
      exact splitSlashes_ne_nil true cs
    have none : ∀ s ∈ ([] : List (List Char)), Settled s := fun s hs => by cases hs
    obtain ⟨settled, kept⟩ := resolve_settles none clean (.inr full)
    exact settledPath_of_ne_nil kept settled
  cases cs with
  | nil => exact ⟨[], [], rfl, by simpa using settled_nil⟩
  | cons c rest => exact segments _

/-- A settled path is parsed to itself. -/
theorem absolutePath_settled (p : Nat) {path : List Char} (h : SettledPath path) :
    absolutePath (.special p) path = path := by
  obtain ⟨s, ss, rfl, settled⟩ := h
  have pieces : splitSlashes true (s ++ pathText ss) = s :: ss :=
    splitSlashes_pathText fun t ht => (settled t ht).noSlash
  have escaped : (s :: ss).map (Percent.encode Percent.inPath) = s :: ss := by
    calc (s :: ss).map (Percent.encode Percent.inPath) = (s :: ss).map id :=
          List.map_congr_left fun t ht => Percent.encode_eq_self (settled t ht).plain
      _ = s :: ss := List.map_id _
  have resolved : segments (.special p) (s ++ pathText ss) = s :: ss := by
    show resolve false [] ((splitSlashes true (s ++ pathText ss)).map _) = _
    rw [pieces, escaped, resolve_settled settled]
    rfl
  show pathText (segments (.special p) (s ++ pathText ss)) = _
  rw [resolved]

theorem SettledPath.plain {path : List Char} (h : SettledPath path) :
    ∀ c ∈ path, Percent.inPath c = false := by
  obtain ⟨s, ss, rfl, settled⟩ := h
  intro c hc
  obtain ⟨t, ht, hc⟩ := List.mem_flatMap.mp hc
  rcases List.mem_cons.mp hc with rfl | hc
  · decide
  · exact (settled t ht).plain c hc

/-! ### Paths without slashes at their ends -/

theorem settledPath_iff (cs : List Char) :
    SettledPath ('/' :: cs) ↔ ∀ s ∈ splitSlashes false cs, Settled s := by
  constructor
  · rintro ⟨s, ss, text, settled⟩
    have tail : cs = s ++ pathText ss := (List.cons.inj text).2
    have pieces : splitSlashes false (s ++ pathText ss) = s :: ss := by
      apply splitSlashes_pathText
      intro t ht c hc
      have := (settled t ht).noSlash c hc
      simp only [isSlash, Bool.or_eq_false_iff] at this ⊢
      exact ⟨this.1, rfl⟩
    rw [tail, pieces]
    exact settled
  · intro settled
    have := settledPath_of_ne_nil (splitSlashes_ne_nil false cs) settled
    rwa [pathText_splitSlashes] at this

theorem SettledPath.dropWhile {cs : List Char} (h : SettledPath ('/' :: cs)) :
    SettledPath ('/' :: cs.dropWhile (· == '/')) := by
  induction cs with
  | nil => exact h
  | cons c cs ih =>
    by_cases slash : c = '/'
    · rw [List.dropWhile_cons_of_pos (by simpa using slash)]
      apply ih
      rw [settledPath_iff] at h ⊢
      intro s hs
      apply h
      rw [slash, splitSlashes]
      exact List.mem_cons_of_mem _ hs
    · rwa [List.dropWhile_cons_of_neg (by simpa using slash)]

theorem SettledPath.dropWhile_reverse {cs : List Char} (h : SettledPath ('/' :: cs.reverse)) :
    SettledPath ('/' :: (cs.dropWhile (· == '/')).reverse) := by
  induction cs with
  | nil => exact h
  | cons c cs ih =>
    by_cases slash : c = '/'
    · rw [List.dropWhile_cons_of_pos (by simpa using slash)]
      apply ih
      rw [settledPath_iff] at h ⊢
      intro s hs
      apply h
      rw [slash, List.reverse_cons, splitSlashes_append]
      exact List.mem_append_left _ hs
    · rwa [List.dropWhile_cons_of_neg (by simpa using slash)]

/-- What comes after a slash of a settled path may be replaced by other settled segments. -/
theorem SettledPath.replace {cs a b : List Char} (h : SettledPath (cs ++ '/' :: a))
    (settled : ∀ s ∈ splitSlashes false b, Settled s) : SettledPath (cs ++ '/' :: b) := by
  cases cs with
  | nil => exact (settledPath_iff b).mpr settled
  | cons c cs =>
    obtain rfl : c = '/' := by
      obtain ⟨s, ss, text, -⟩ := h
      exact (List.cons.inj text).1
    have old := (settledPath_iff (cs ++ '/' :: a)).mp h
    apply (settledPath_iff (cs ++ '/' :: b)).mpr
    rw [splitSlashes_append] at old ⊢
    intro s hs
    rcases List.mem_append.mp hs with hs | hs
    · exact old s (List.mem_append_left _ hs)
    · exact settled s hs

/-- A settled path stays settled if its slashes at either end become a single one in front. -/
theorem SettledPath.trim {path : List Char} (h : SettledPath path) :
    SettledPath ('/' :: trimList (· == '/') path) := by
  obtain ⟨cs, rfl⟩ : ∃ cs, path = '/' :: cs := by
    obtain ⟨s, ss, text, -⟩ := h
    exact ⟨_, text⟩
  apply SettledPath.dropWhile_reverse
  rw [List.reverse_reverse, List.dropWhile_cons_of_pos (by decide)]
  exact h.dropWhile

end Telemetry.Url
