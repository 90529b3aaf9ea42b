import Telemetry.Proofs.RateLimit.History

/-! What is limited, and for how long. A category is limited while the limit on everything, its own or
the one of `default` lies ahead; but a limit of its own that is over keeps the one of `default` from
counting. The time that is named as left is that of the limit on everything, as long as there is one;
so a category may be limited for longer. -/

namespace Telemetry.RateLimits

/-- There is a limit, and it lies ahead. -/
def Ahead (t : Instant) (limit : Option Instant) : Prop := ∃ i, limit = some i ∧ t.nanos < i.nanos

theorem not_ahead_none (t : Instant) : ¬ Ahead t .none := by
  rintro ⟨i, ⟨⟩, -⟩

theorem ahead_some {t i : Instant} : Ahead t (some i) ↔ t.nanos < i.nanos := by
  constructor
  · rintro ⟨i, ⟨⟩, h⟩
    exact h
  · exact fun h => ⟨i, rfl, h⟩

theorem Ahead.earlier {t t' : Instant} {limit : Option Instant} (h : Ahead t' limit)
    (le : t.nanos ≤ t'.nanos) : Ahead t limit := by
  obtain ⟨i, there, later⟩ := h
  exact ⟨i, there, by omega⟩

theorem ahead_or {t : Instant} {a b : Option Instant} :
    Ahead t (a.or b) ↔ Ahead t a ∨ a = .none ∧ Ahead t b := by
  cases a with
  | none => simp [not_ahead_none]
  | some i => simp

theorem timeLeft_eq_some {t i : Instant} {d : Nat} :
    timeLeft t i = some d ↔ t.nanos < i.nanos ∧ i.nanos = t.nanos + d := by
  unfold timeLeft
  by_cases h : t.nanos < i.nanos
  · rw [if_pos h, Option.some.injEq]
    omega
  · rw [if_neg h]
    simp [h]

theorem isSome_timeLeft {t : Instant} {limit : Option Instant} :
    (limit.bind (timeLeft t)).isSome = true ↔ Ahead t limit := by
  cases limit with
  | none => simp [not_ahead_none]
  | some i =>
    rw [ahead_some, Option.bind_some, timeLeft]
    by_cases h : t.nanos < i.nanos <;> simp [h]

theorem isSome_disabled {l : RateLimits} {t : Instant} {c : Category} :
    (l.disabled t c).isSome = true ↔ Ahead t l.everything ∨ Ahead t (l.own c) := by
  rw [disabled, Option.isSome_or, Bool.or_eq_true, isSome_timeLeft, isSome_timeLeft]

/-- The category `default` needs no exception. -/
theorem own_eq (l : RateLimits) (c : Category) :
    l.own c = (l.category c).or (l.category .default) := by
  unfold own
  by_cases h : c = .default
  · subst h
    cases l.category .default <;> rfl
  · rw [if_neg h]

/-- Which of the limits the time that is left comes from. -/
theorem disabled_cases {l : RateLimits} {t : Instant} {c : Category} {d : Nat}
    (h : l.disabled t c = some d) :
    (∃ i, l.everything = some i ∧ t.nanos < i.nanos ∧ i.nanos = t.nanos + d) ∨
      ¬ Ahead t l.everything ∧
        ∃ i, l.own c = some i ∧ t.nanos < i.nanos ∧ i.nanos = t.nanos + d := by
  rcases Option.or_eq_some_iff.mp h with everything | ⟨ended, own⟩
  · obtain ⟨i, there, left⟩ := Option.bind_eq_some_iff.mp everything
    exact .inl ⟨i, there, timeLeft_eq_some.mp left⟩
  · obtain ⟨i, there, left⟩ := Option.bind_eq_some_iff.mp own
    refine .inr ⟨?_, i, there, timeLeft_eq_some.mp left⟩
    rw [← isSome_timeLeft, ended]
    exact Bool.false_ne_true

/-- What was announced: after any updates a category is limited just while the limit on everything or
its own lies ahead, or the one of `default` if it never had its own. So of the limits that apply to a
category one that lies ahead counts, unless it is the one of `default`, hidden by an own one that is
over. -/
theorem limited_iff (us : History) (c : Category) (t : Instant) :
    let everything := Ahead t (us.recorded .none)
    let own := Ahead t (us.recorded (some c))
    let general := Ahead t (us.recorded (some .default))
    let limited := (us.limits.disabled t c).isSome = true
    (limited ↔ everything ∨ own ∨ us.recorded (some c) = .none ∧ general) ∧
      ((limited ↔ everything ∨ own ∨ general) ↔
        ¬ (general ∧ ¬ everything ∧ ∃ i, us.recorded (some c) = some i ∧ i.nanos ≤ t.nanos)) := by
  intro everything own general limited
  have exact : limited ↔ everything ∨ own ∨ us.recorded (some c) = .none ∧ general := by
    show _ = true ↔ _
    rw [isSome_disabled, own_eq, us.everything_limits, us.category_limits, us.category_limits,
      ahead_or]
  refine ⟨exact, ?_⟩
  rw [exact]
  cases recorded : us.recorded (some c) with
  | none => simp
  | some i =>
    have ahead : own ↔ t.nanos < i.nanos := by
      show Ahead t _ ↔ _
      rw [recorded, ahead_some]
    have ended : i.nanos ≤ t.nanos ↔ ¬ own := by
      rw [ahead]
      omega
    simp only [reduceCtorEq, false_and, or_false, Option.some.injEq, exists_eq_left', ended]
    constructor
    · rintro same ⟨ahead, free, past⟩
      exact (same.mpr (.inr (.inr ahead))).elim free past
    · intro counts
      refine ⟨fun h => h.elim .inl fun h => .inr (.inl h), ?_⟩
      rintro (h | h | h)
      · exact .inl h
      · exact .inr h
      · exact Classical.byContradiction fun free =>
          counts ⟨h, fun e => free (.inl e), fun o => free (.inr o)⟩

/-- Errors are limited for no time at all, everything for a minute: errors are not limited. -/
theorem own_hides_general :
    let us : History := [(.epoch, .header "0:error:organization, 60:default:organization")]
    ¬ ((us.limits.disabled .epoch .error).isSome = true ↔
      Ahead .epoch (us.recorded .none) ∨ Ahead .epoch (us.recorded (some .error)) ∨
        Ahead .epoch (us.recorded (some .default))) := by
  intro us limited
  have general : us.recorded (some .default) = some (.ofSeconds 60) := by decide +kernel
  have free : us.limits.disabled .epoch .error = .none := by decide +kernel
  have ahead : Ahead .epoch (us.recorded (some .default)) := by
    rw [general, ahead_some]
    decide
  have counts := limited.mpr (.inr (.inr ahead))
  rw [free] at counts
  cases counts

/-- The time that is named as left: a category stays limited for as long, after any updates. When
that time is up it is free for good just if the time was not that of the limit on everything, with
a limit of the category, its own or that of `default`, that ends later. -/
theorem limited_throughout (us : History) (c : Category) (t : Instant) (d : Nat)
    (named : us.limits.disabled t c = some d) :
    (∀ t' : Instant, t.nanos ≤ t'.nanos → t'.nanos < t.nanos + d →
        (us.limits.disabled t' c).isSome = true) ∧
      ((∀ t' : Instant, t.nanos + d ≤ t'.nanos → us.limits.disabled t' c = .none) ↔
        ¬ ∃ g i, us.recorded .none = some g ∧ t.nanos < g.nanos ∧
          (us.recorded (some c)).or (us.recorded (some .default)) = some i ∧
            g.nanos < i.nanos) := by
  have limited (t' : Instant) : (us.limits.disabled t' c).isSome = true ↔
      Ahead t' (us.recorded .none) ∨
        Ahead t' ((us.recorded (some c)).or (us.recorded (some .default))) := by
    rw [isSome_disabled, own_eq, us.everything_limits, us.category_limits, us.category_limits]
  have source := disabled_cases named
  rw [own_eq, us.everything_limits, us.category_limits, us.category_limits] at source
  constructor
  · intro t' _ before
    rw [limited]
    rcases source with ⟨i, there, -, ends⟩ | ⟨-, i, there, -, ends⟩
    · exact .inl ⟨i, there, by omega⟩
    · exact .inr ⟨i, there, by omega⟩
  constructor
  · rintro free ⟨g, i, everything, ahead, own, later⟩
    rcases source with ⟨g', there, -, ends⟩ | ⟨ended, -⟩
    · rw [everything, Option.some.injEq] at there
      subst there
      have still := (limited g).mpr (.inr ⟨i, own, later⟩)
      rw [free g (by omega)] at still
      cases still
    · exact ended ⟨g, everything, ahead⟩
  · intro alone t' up
    rw [← Option.not_isSome_iff_eq_none, limited]
    rcases source with ⟨g, there, ahead, ends⟩ | ⟨ended, j, there, -, ends⟩
    · rintro (⟨g', everything, late⟩ | ⟨i, own, late⟩)
      · rw [there, Option.some.injEq] at everything
        subst everything
        omega
      · exact alone ⟨g, i, there, ahead, own, by omega⟩
    · rintro (late | ⟨i, own, late⟩)
      · exact ended (late.earlier (by omega))
      · rw [there, Option.some.injEq] at own
        subst own
        omega

theorem limited_throughout_a_minute :
    let us : History := [(.epoch, .header "60:error:organization")]
    us.limits.disabled (.ofSeconds 10) .error = some 50000000000 ∧
      (us.limits.disabled (.ofSeconds 59) .error).isSome = true ∧
        ∀ t : Instant, 60000000000 ≤ t.nanos → us.limits.disabled t .error = .none := by
  intro us
  have named : us.limits.disabled (.ofSeconds 10) .error = some 50000000000 := by decide +kernel
  obtain ⟨throughout, after⟩ := limited_throughout us .error (.ofSeconds 10) 50000000000 named
  refine ⟨named, throughout _ (by decide) (by decide), fun t up => after.mpr ?_ t up⟩
  rintro ⟨g, -, everything, -⟩
  have unlimited : us.recorded .none = .none := by decide +kernel
  rw [unlimited] at everything
  cases everything

/-- Everything is limited for a minute and errors for two: one minute is named as left, but errors
are still limited after it. -/
theorem named_too_short :
    let us : History := [(.epoch, .header "60::organization, 120:error:organization")]
    us.limits.disabled .epoch .error = some 60000000000 ∧
      ¬ ∀ t : Instant, 60000000000 ≤ t.nanos → us.limits.disabled t .error = .none := by
  intro us
  refine ⟨by decide +kernel, fun free => ?_⟩
  have still : us.limits.disabled (.ofSeconds 60) .error = some 60000000000 := by decide +kernel
  rw [free _ (by decide)] at still
  cases still

end Telemetry.RateLimits
