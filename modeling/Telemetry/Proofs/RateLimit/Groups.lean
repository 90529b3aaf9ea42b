import Telemetry.Proofs.RateLimit.History
import Telemetry.Proofs.Text.Pieces

/-! The header of rate limits as a list of groups, each of which counts as if it stood alone. A group
that is not well formed changes nothing, whatever stands around it; a well-formed one sets the limits
that it names and no others. -/

namespace Telemetry

theorem Category.parse?_eq_some {s : String} {c : Category} :
    Category.parse? s = some c ↔ c.name = s := by
  constructor
  · intro h
    simpa using List.find?_some h
  · rintro rfl
    cases c <;> decide

namespace RateLimits

variable {now limit : Instant} {l : RateLimits}

theorem groups_append (now : Instant) (l : RateLimits) (a b : String) :
    groups now (a ++ "," ++ b) l = groups now b (groups now a l) := by
  have pieces : splitText ',' (a ++ "," ++ b) = splitText ',' a ++ splitText ',' b :=
    splitText_append ',' a b
  rw [groups, pieces, List.foldl_append]
  rfl

/-- The categories that a list names are limited, and no other limit changes. -/
theorem on_foldl_limitNamed (limit : Instant) (names : List String) (l : RateLimits)
    (s : Option Category) :
    (names.foldl (limitNamed limit) l).on s =
      if ∃ c ∈ s, c.name ∈ names then some limit else l.on s := by
  induction names generalizing l with
  | nil => simp
  | cons name names ih =>
    have first : (l.limitNamed limit name).on s =
        if ∃ c ∈ s, c.name = name then some limit else l.on s := by
      cases parsed : Category.parse? name with
      | none =>
        have other : ¬ ∃ c ∈ s, c.name = name := by
          rintro ⟨c, -, named⟩
          rw [Category.parse?_eq_some.mpr named] at parsed
          cases parsed
        rw [limitNamed, parsed, if_neg other]
      | some c =>
        have same : (∃ d ∈ s, d.name = name) ↔ some c = s := by
          simp only [← Category.parse?_eq_some, parsed, Option.some.injEq, Option.mem_def]
          constructor
          · rintro ⟨d, rfl, rfl⟩
            rfl
          · rintro rfl
            exact ⟨c, rfl, rfl⟩
        have noted : l.limitNamed limit name = l.note ⟨some c, limit⟩ := by
          rw [limitNamed, parsed]
          rfl
        rw [noted, on_note]
        exact if_congr same.symm rfl rfl
    rw [List.foldl_cons, ih, first]
    simp only [List.mem_cons]
    split
    · next later =>
      obtain ⟨c, hc, named⟩ := later
      rw [if_pos ⟨c, hc, .inr named⟩]
    · next free =>
      refine if_congr ⟨?_, ?_⟩ rfl rfl
      · rintro ⟨c, hc, named⟩
        exact ⟨c, hc, .inl named⟩
      · rintro ⟨c, hc, named | named⟩
        · exact ⟨c, hc, named⟩
        · exact absurd ⟨c, hc, named⟩ free

theorem group_malformed {g : String} {fields : List String} (pieces : Pieces ':' g fields)
    (malformed : fields.length < 3 ∨ ∃ f ∈ fields.head?, FloatText.read? (trimBlank f) = .none) :
    group now l g = l := by
  rw [group, pieces_iff.mp pieces]
  rcases fields with _ | ⟨first, _ | ⟨categories, _ | ⟨scope, more⟩⟩⟩
  · rfl
  · rfl
  · rfl
  · rcases malformed with short | ⟨f, hf, unread⟩
    · simp only [List.length_cons] at short
      omega
    · cases hf
      dsimp only
      rw [unread]

theorem on_group (now : Instant) (l : RateLimits) {g first categories scope : String}
    {more names : List String} {seconds : Float}
    (pieces : Pieces ':' g (first :: categories :: scope :: more))
    (read : FloatText.read? (trimBlank first) = some seconds)
    (list : Pieces ';' categories names) (s : Option Category) :
    (group now l g).on s =
      if s = .none ∧ categories = "" ∨ ∃ c ∈ s, c.name ∈ names then some (after now seconds)
      else l.on s := by
  rw [group, pieces_iff.mp pieces]
  dsimp only
  rw [read]
  dsimp only
  rw [on_foldl_limitNamed, pieces_iff.mp list]
  cases s with
  | none => simp [on, apply_ite RateLimits.everything]
  | some c => simp [on, apply_ite RateLimits.category]

/-- A header is a list of groups. They are applied one after the other, so that a header of two parts
comes to the one part and then the other. A group of less than three fields, or whose first field is
no number, changes nothing. Any other group limits everything just if its list of categories is
empty, and the categories that its list names, for the time it begins with; it leaves every other
limit alone. -/
theorem groups_independent (now : Instant) (l : RateLimits) :
    (∀ header gs, Pieces ',' header gs →
      groups now header l = gs.foldl (fun l g => group now l (trimBlank g)) l) ∧
    (∀ a b, groups now (a ++ "," ++ b) l = groups now b (groups now a l)) ∧
    (∀ g fields, Pieces ':' g fields →
      (fields.length < 3 ∨ ∃ f ∈ fields.head?, FloatText.read? (trimBlank f) = .none) →
      group now l g = l) ∧
    ∀ g first categories scope more seconds names,
      Pieces ':' g (first :: categories :: scope :: more) →
      FloatText.read? (trimBlank first) = some seconds → Pieces ';' categories names →
      (group now l g).everything =
          (if categories = "" then some (after now seconds) else l.everything) ∧
        ∀ c, (group now l g).category c =
          if c.name ∈ names then some (after now seconds) else l.category c := by
  refine ⟨fun header gs pieces => ?_, groups_append now l, fun g fields => group_malformed, ?_⟩
  · rw [groups, pieces_iff.mp pieces]
  · intro g first categories scope more seconds names pieces read list
    refine ⟨?_, fun c => ?_⟩
    · simpa [on] using on_group now l pieces read list .none
    · simpa [on] using on_group now l pieces read list (some c)

/-- Between a group for errors that also names something unknown and one for everything, a third one
that begins with no number. -/
theorem groups_independent_unknown :
    let limits := groups .epoch "60:error;replay:key:busy, soon::key,5::key" .none
    limits.everything = some (.ofSeconds 5) ∧ limits.category .error = some (.ofSeconds 60) ∧
      limits.category .transaction = .none := by
  intro limits
  have header : Pieces ',' "60:error;replay:key:busy, soon::key,5::key"
      ["60:error;replay:key:busy", " soon::key", "5::key"] := pieces_iff.mpr (by decide +kernel)
  have errors : Pieces ':' "60:error;replay:key:busy" ["60", "error;replay", "key", "busy"] :=
    pieces_iff.mpr (by decide +kernel)
  have unread : Pieces ':' "soon::key" ["soon", "", "key"] := pieces_iff.mpr (by decide +kernel)
  have everything : Pieces ':' "5::key" ["5", "", "key"] := pieces_iff.mpr (by decide +kernel)
  have names : Pieces ';' "error;replay" ["error", "replay"] := pieces_iff.mpr (by decide +kernel)
  have nobody : Pieces ';' "" [""] := pieces_iff.mpr (by decide +kernel)
  have trimmed : trimBlank "60:error;replay:key:busy" = "60:error;replay:key:busy" ∧
      trimBlank " soon::key" = "soon::key" ∧ trimBlank "5::key" = "5::key" := by decide +kernel
  have reads (text : String) (n : Nat)
      (h : (FloatText.read? text).map (after .epoch) = some (.ofSeconds n)) :
      ∃ x, FloatText.read? text = some x ∧ after .epoch x = .ofSeconds n := by
    simpa using h
  obtain ⟨x, minute, oneMinute⟩ := reads (trimBlank "60") 60 (by decide +kernel)
  obtain ⟨y, seconds, fiveSeconds⟩ := reads (trimBlank "5") 5 (by decide +kernel)
  let first := group .epoch .none "60:error;replay:key:busy"
  have skipped : group .epoch first "soon::key" = first :=
    (groups_independent .epoch first).2.2.1 _ _ unread (.inr ⟨"soon", rfl, by decide +kernel⟩)
  have applied : limits = group .epoch first "5::key" := by
    have split := (groups_independent .epoch .none).1 _ _ header
    simp only [List.foldl_cons, List.foldl_nil, trimmed] at split
    rw [← skipped]
    exact split
  obtain ⟨-, onFirst⟩ := (groups_independent .epoch .none).2.2.2 _ _ _ _ _ _ _ errors minute names
  obtain ⟨global, onLast⟩ :=
    (groups_independent .epoch first).2.2.2 _ _ _ _ _ _ _ everything seconds nobody
  rw [applied, global, onLast, onLast, onFirst, onFirst, oneMinute, fiveSeconds]
  decide

end RateLimits

end Telemetry
