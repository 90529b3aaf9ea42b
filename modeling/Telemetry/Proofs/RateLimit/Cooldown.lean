import Mathlib.Tactic.IntervalCases
import Telemetry.Proofs.RateLimit.Coverage

/-! How far ahead a limit may lie. What an update reads as a number of seconds counts for a year at
most, and what it adds to the current time the clock can show. But a date is taken as it is: it may
lie ahead until the end of the year 9999. -/

namespace Telemetry

/-! ### Dates -/

namespace HttpDate

theorem daysBeforeYear_succ {y : Nat} (hy : 1 ≤ y) :
    daysBeforeYear (y + 1) = daysBeforeYear y + if isLeap y then 366 else 365 := by
  obtain ⟨p, rfl⟩ : ∃ p, y = p + 1 := ⟨y - 1, by omega⟩
  have leap : isLeap (p + 1) = true ↔ 4 ∣ p + 1 ∧ (¬ 100 ∣ p + 1 ∨ 400 ∣ p + 1) := by
    simp [isLeap, Nat.dvd_iff_mod_eq_zero]
  have fewer : p / 100 ≤ p / 4 := Nat.div_le_div_left (by decide) (by decide)
  simp only [daysBeforeYear, Nat.add_sub_cancel, Nat.succ_div, leap]
  -- the quotients are kept from `omega`, which has the divisibilities left to deal with
  generalize p / 4 = a, p / 100 = b, p / 400 = c at fewer ⊢
  by_cases h4 : 4 ∣ p + 1 <;> by_cases h100 : 100 ∣ p + 1 <;> by_cases h400 : 400 ∣ p + 1 <;>
    simp only [h4, h100, h400, not_true, not_false_eq_true, true_and, false_and, or_true, or_false,
      if_true, if_false] <;>
    omega

theorem daysBeforeYear_mono {y y' : Nat} (h : y ≤ y') : daysBeforeYear y ≤ daysBeforeYear y' := by
  induction y', h using Nat.le_induction with
  | base => exact Nat.le_refl _
  | succ n _ ih =>
    refine Nat.le_trans ih ?_
    cases n with
    | zero => decide
    | succ n =>
      rw [daysBeforeYear_succ (Nat.succ_le_succ (Nat.zero_le n))]
      exact Nat.le_add_right ..

theorem days_until_le {y m : Nat} (hy : 1 ≤ y) (low : 1 ≤ m) (high : m ≤ 12) :
    daysBeforeYear y + (List.range (m - 1)).foldl (fun n i => n + monthDays y (i + 1)) 0 +
      monthDays y m ≤ daysBeforeYear (y + 1) := by
  rw [daysBeforeYear_succ hy, Nat.add_assoc]
  refine Nat.add_le_add_left ?_ _
  cases leap : isLeap y <;> interval_cases m <;> simp [monthDays, leap, List.range_succ]

/-- The last second of the year 9999. -/
def lastSecond : Nat := 253402300799

theorem instant_le {p : Parts} (valid : p.isValid = true) :
    p.instant.nanos ≤ lastSecond * Instant.perSecond := by
  simp only [Parts.isValid, Bool.and_eq_true, decide_eq_true_eq] at valid
  obtain ⟨⟨⟨⟨⟨⟨⟨⟨⟨second, minute⟩, hour⟩, start⟩, finish⟩, first⟩, last⟩, firstDay⟩, lastDay⟩, -⟩ :=
    valid
  have month := days_until_le (y := p.year) (by omega) first last
  have year : daysBeforeYear (p.year + 1) ≤ daysBeforeYear 10000 := daysBeforeYear_mono (by omega)
  have until10000 : daysBeforeYear 10000 = 3652059 := by decide
  have until1970 : daysBeforeYear 1970 = 719162 := by decide
  have days : days p.year p.month p.day ≤ 2932896 := by
    unfold days
    dsimp only
    omega
  have seconds : HttpDate.days p.year p.month p.day * 86400 + p.hour * 3600 + p.minute * 60 +
      p.second ≤ lastSecond := by
    unfold lastSecond
    omega
  exact Int.mul_le_mul_of_nonneg_right (Int.ofNat_le.mpr seconds) (Int.natCast_nonneg _)

theorem ofHttpDate?_le {s : String} {t : Instant} (h : Instant.ofHttpDate? s = some t) :
    t.nanos ≤ lastSecond * Instant.perSecond := by
  unfold Instant.ofHttpDate? at h
  dsimp only at h
  split at h
  · obtain ⟨parts, -, made⟩ := Option.bind_eq_some_iff.mp h
    split at made
    · next valid =>
      cases made
      exact instant_le valid
    · cases made
  · cases h

end HttpDate

/-! ### Sums -/

namespace Instant

/-- The clock counts seconds in 64 bits, one of them for the sign. -/
def OnClock (t : Instant) : Prop := t.nanos / perSecond ≤ maxSeconds

instance (t : Instant) : Decidable t.OnClock := inferInstanceAs (Decidable (_ ≤ _))

/-- A point in time that is reached from another one, if the clock can show it. -/
def add? (t : Instant) (nanos : Nat) : Option Instant :=
  if (t.add nanos).OnClock then some (t.add nanos) else none

theorem OnClock.add? {t : Instant} {n nanos : Nat} (h : (t.add n).OnClock) (le : nanos ≤ n) :
    t.add? nanos = some (t.add nanos) := by
  refine if_pos (Int.le_trans (Int.ediv_le_ediv (by decide) ?_) h)
  show t.nanos + nanos ≤ t.nanos + n
  omega

end Instant

namespace RateLimits

/-- The length of time, in nanoseconds, that a number of seconds comes to. -/
def lengthOf (seconds : Float) : Nat := wholeSeconds (.ofFloat seconds) * Instant.perSecond

/-- A year in nanoseconds. -/
def longest : Nat := maxSeconds * Instant.perSecond

theorem wholeSeconds_le (b : Binary) : wholeSeconds b ≤ maxSeconds := by
  unfold wholeSeconds
  split
  · exact Nat.zero_le _
  · split
    · exact Nat.zero_le _
    · exact Nat.le_refl _
  · split
    · exact Nat.zero_le _
    · exact Nat.min_le_right _ _

theorem lengthOf_le (seconds : Float) : lengthOf seconds ≤ longest :=
  Nat.mul_le_mul_right _ (wholeSeconds_le _)

def groupLengths (text : String) : List Nat :=
  match splitText ':' text with
  | seconds :: _ :: _ :: _ => ((FloatText.read? (trimBlank seconds)).map lengthOf).toList
  | _ => []

def retryLengths (text : String) : List Nat :=
  ((FloatText.read? (trimBlank text)).map lengthOf).toList

/-- The date of a text that is no number. -/
def readDate? (text : String) : Option Instant :=
  match FloatText.read? (trimBlank text) with
  | some _ => .none
  | .none => Instant.ofHttpDate? (trimBlank text)

namespace Update

/-- The lengths of time that an update adds to the current time. -/
def lengths : Update → List Nat
  | header text => (splitText ',' text).flatMap fun g => groupLengths (trimBlank g)
  | retryAfter text => retryLengths text
  | tooMany => [defaultSeconds * Instant.perSecond]
  | response r =>
    match r.rateLimits, r.retryAfter with
    | some text, _ => (splitText ',' text).flatMap fun g => groupLengths (trimBlank g)
    | .none, some text => retryLengths text
    | .none, .none => if r.status = 429 then [defaultSeconds * Instant.perSecond] else []

/-- The date that an update limits everything until. -/
def date? : Update → Option Instant
  | retryAfter text => readDate? text
  | response ⟨_, some text, .none⟩ => readDate? text
  | _ => .none

/-- An update that comes to nothing where the clock cannot show one of its sums. -/
def onClock? (now : Instant) (l : RateLimits) (u : Update) : Option RateLimits :=
  (u.lengths.mapM now.add?).map fun _ => u.apply now l

theorem mem_groupNotices {now : Instant} {text : String} {n : Notice}
    (h : n ∈ groupNotices now text) : ∃ d ∈ groupLengths text, n.limit = now.add d := by
  unfold groupNotices at h
  unfold groupLengths
  generalize splitText ':' text = fields at h ⊢
  rcases fields with _ | ⟨seconds, _ | ⟨categories, _ | ⟨scope, more⟩⟩⟩
  · cases h
  · cases h
  · cases h
  · dsimp only at h ⊢
    cases read : FloatText.read? (trimBlank seconds) with
    | none =>
      rw [read] at h
      cases h
    | some x =>
      rw [read] at h
      refine ⟨lengthOf x, List.mem_singleton_self _, ?_⟩
      rcases List.mem_append.mp h with h | h
      · split at h
        · rw [List.mem_singleton.mp h]
          rfl
        · cases h
      · obtain ⟨c, -, rfl⟩ := List.mem_map.mp h
        rfl

theorem mem_headerNotices {now : Instant} {text : String} {n : Notice}
    (h : n ∈ headerNotices now text) : ∃ d ∈ (header text).lengths, n.limit = now.add d := by
  obtain ⟨g, hg, noticed⟩ := List.mem_flatMap.mp h
  obtain ⟨d, hd, sum⟩ := mem_groupNotices noticed
  exact ⟨d, List.mem_flatMap.mpr ⟨g, hg, hd⟩, sum⟩

theorem mem_retryNotices {now : Instant} {text : String} {n : Notice}
    (h : n ∈ retryNotices now text) :
    (∃ d ∈ retryLengths text, n.limit = now.add d) ∨
      n.category = .none ∧ readDate? text = some n.limit := by
  unfold retryNotices at h
  unfold retryLengths readDate?
  cases read : FloatText.read? (trimBlank text) with
  | some x =>
    rw [read] at h
    rw [List.mem_singleton.mp h]
    exact .inl ⟨lengthOf x, List.mem_singleton_self _, rfl⟩
  | none =>
    rw [read] at h
    obtain ⟨i, hi, rfl⟩ := List.mem_map.mp h
    exact .inr ⟨rfl, Option.mem_toList.mp hi⟩

/-- A limit that an update announces is one of its sums, or it is the date of everything. -/
theorem notice_cases {now : Instant} {u : Update} {n : Notice} (h : n ∈ u.notices now) :
    (∃ d ∈ u.lengths, n.limit = now.add d) ∨ n.category = .none ∧ u.date? = some n.limit := by
  have bare (h : n ∈ [tooManyNotice now]) :
      ∃ d ∈ [defaultSeconds * Instant.perSecond], n.limit = now.add d := by
    rw [List.mem_singleton.mp h]
    exact ⟨_, List.mem_singleton_self _, rfl⟩
  cases u with
  | header text => exact .inl (mem_headerNotices h)
  | retryAfter text => exact mem_retryNotices h
  | tooMany => exact .inl (bare h)
  | response r =>
    obtain ⟨status, retry, limits⟩ := r
    cases limits with
    | some text => exact .inl (mem_headerNotices h)
    | none =>
      cases retry with
      | some text => exact mem_retryNotices h
      | none =>
        simp only [notices, lengths] at h ⊢
        split at h
        · next busy =>
          rw [if_pos busy]
          exact .inl (bare h)
        · cases h

theorem length_le_of_mem {text : String} {d : Nat} (h : d ∈ retryLengths text) : d ≤ longest := by
  obtain ⟨x, -, rfl⟩ := Option.map_eq_some_iff.mp (Option.mem_toList.mp h)
  exact lengthOf_le x

theorem length_le_of_mem_groups {text : String} {d : Nat}
    (h : d ∈ (splitText ',' text).flatMap fun g => groupLengths (trimBlank g)) : d ≤ longest := by
  obtain ⟨g, -, hd⟩ := List.mem_flatMap.mp h
  unfold groupLengths at hd
  split at hd
  · exact length_le_of_mem hd
  · cases hd

/-- No update adds more than a year. -/
theorem lengths_le {u : Update} {d : Nat} (h : d ∈ u.lengths) : d ≤ longest := by
  have bare (h : d ∈ [defaultSeconds * Instant.perSecond]) : d ≤ longest := by
    rw [List.mem_singleton.mp h]
    decide
  cases u with
  | header text => exact length_le_of_mem_groups h
  | retryAfter text => exact length_le_of_mem h
  | tooMany => exact bare h
  | response r =>
    obtain ⟨status, retry, limits⟩ := r
    cases limits with
    | some text => exact length_le_of_mem_groups h
    | none =>
      cases retry with
      | some text => exact length_le_of_mem h
      | none =>
        simp only [lengths] at h
        split at h
        · exact bare h
        · cases h

/-- While the clock has a year to go, no sum of an update is too late for it. -/
theorem onClock?_eq {now : Instant} (room : (now.add longest).OnClock) (l : RateLimits)
    (u : Update) : u.onClock? now l = some (u.apply now l) := by
  have sums (ds : List Nat) (le : ∀ d ∈ ds, d ≤ longest) :
      ds.mapM now.add? = some (ds.map now.add) := by
    induction ds with
    | nil => rfl
    | cons d ds ih =>
      rw [List.mapM_cons, room.add? (le d List.mem_cons_self),
        ih fun d hd => le d (List.mem_cons_of_mem _ hd)]
      rfl
  rw [onClock?, sums _ fun d => lengths_le]
  rfl

theorem date?_le {u : Update} {i : Instant} (h : u.date? = some i) :
    i.nanos ≤ HttpDate.lastSecond * Instant.perSecond := by
  have read {text : String} (h : readDate? text = some i) :
      i.nanos ≤ HttpDate.lastSecond * Instant.perSecond := by
    unfold readDate? at h
    split at h
    · cases h
    · exact HttpDate.ofHttpDate?_le h
  unfold date? at h
  split at h
  · exact read h
  · exact read h
  · cases h

end Update

/-! ### Histories -/

namespace History

variable {us : History} {now : Instant}

theorem mem_of_recorded {s : Option Category} {i : Instant} (h : us.recorded s = some i) :
    ∃ x ∈ us, ∃ n ∈ x.2.notices x.1, n.category = s ∧ n.limit = i := by
  obtain ⟨n, last, rfl⟩ := Option.map_eq_some_iff.mp h
  obtain ⟨mem, category⟩ := List.mem_filter.mp (List.mem_of_getLast? last)
  obtain ⟨x, hx, noticed⟩ := List.mem_flatMap.mp mem
  exact ⟨x, hx, n, noticed, by simpa using category, rfl⟩

/-- A recorded limit lies no more than a year ahead, unless it is a date. -/
theorem recorded_near (upto : ∀ x ∈ us, x.1.nanos ≤ now.nanos) {s : Option Category} {i : Instant}
    (h : us.recorded s = some i) :
    i.nanos ≤ now.nanos + longest ∨ s = .none ∧ ∃ x ∈ us, x.2.date? = some i := by
  obtain ⟨x, hx, n, noticed, rfl, rfl⟩ := mem_of_recorded h
  rcases Update.notice_cases noticed with ⟨d, hd, sum⟩ | ⟨everything, date⟩
  · have before := upto x hx
    have short := Update.lengths_le hd
    left
    rw [sum]
    show x.1.nanos + d ≤ _
    omega
  · exact .inr ⟨everything, x, hx, date⟩

/-- Whatever time is left of a limit: it is a year at most, or the time until a date. -/
theorem disabled_near (upto : ∀ x ∈ us, x.1.nanos ≤ now.nanos) {t : Instant}
    (after : now.nanos ≤ t.nanos) {c : Category} {d : Nat} (h : us.limits.disabled t c = some d) :
    d ≤ longest ∨ ∃ i, us.recorded .none = some i ∧ i.nanos = t.nanos + d ∧
      now.nanos + longest < i.nanos ∧ ∃ x ∈ us, x.2.date? = some i := by
  have source := disabled_cases h
  rw [own_eq, us.everything_limits, us.category_limits, us.category_limits] at source
  rcases source with ⟨i, there, -, ends⟩ | ⟨-, i, there, -, ends⟩
  · by_cases near : i.nanos ≤ now.nanos + longest
    · left
      omega
    · rcases recorded_near upto there with le | ⟨-, date⟩
      · exact absurd le near
      · exact .inr ⟨i, there, ends, by omega, date⟩
  · have near : i.nanos ≤ now.nanos + longest := by
      rcases Option.or_eq_some_iff.mp there with own | ⟨-, general⟩
      · exact (recorded_near upto own).resolve_right nofun
      · exact (recorded_near upto general).resolve_right nofun
    left
    omega

end History

/-- Limits after an update, the last one of any that came in the order of their times. While the
clock has a year to go, the update adds nothing that it could not show. From then on no category is
limited for more than a year, just if the last limit on everything was not a date later than that;
and such a date comes to an end with the year 9999. -/
theorem cooldown_bounded (earlier : History) (now : Instant) (u : Update)
    (clock : (earlier ++ [(now, u)]).Pairwise fun x y => x.1.nanos ≤ y.1.nanos) :
    let us : History := earlier ++ [(now, u)]
    ((now.add longest).OnClock → u.onClock? now earlier.limits = some us.limits) ∧
    ((∀ t c d, now.nanos ≤ t.nanos → us.limits.disabled t c = some d → d ≤ longest) ↔
      ¬ ∃ i, us.recorded .none = some i ∧ now.nanos + longest < i.nanos ∧
        ∃ x ∈ us, x.2.date? = some i) ∧
    ∀ t c d, now.nanos ≤ t.nanos → us.limits.disabled t c = some d →
      d ≤ longest ∨ t.nanos + d ≤ HttpDate.lastSecond * Instant.perSecond := by
  intro us
  have upto : ∀ x ∈ us, x.1.nanos ≤ now.nanos := by
    intro x hx
    rcases List.mem_append.mp hx with hx | hx
    · exact (List.pairwise_append.mp clock).2.2 x hx _ (List.mem_singleton_self _)
    · rw [List.mem_singleton.mp hx]
  refine ⟨fun room => ?_, ⟨?_, fun near t c d after h => ?_⟩, fun t c d after h => ?_⟩
  · rw [Update.onClock?_eq room, History.limits, History.limits, List.foldl_append]
    rfl
  · rintro near ⟨i, last, late, -⟩
    have free : us.limits.disabled now .error = some (i.nanos - now.nanos).toNat := by
      have ahead : now.nanos < i.nanos := by omega
      rw [disabled, us.everything_limits, last, Option.bind_some, timeLeft, if_pos ahead]
      rfl
    have := near now .error _ (Int.le_refl _) free
    omega
  · rcases History.disabled_near upto after h with le | ⟨i, last, -, late, date⟩
    · exact le
    · exact absurd ⟨i, last, late, date⟩ near
  · rcases History.disabled_near upto after h with le | ⟨i, -, ends, -, x, -, date⟩
    · exact .inl le
    · right
      rw [← ends]
      exact Update.date?_le date

/-- No date, and the longest length of time there is. -/
theorem cooldown_bounded_infinite :
    let us : History := [(.epoch, .header "inf:error:organization")]
    let again : Instant × Update := (.epoch, .response ⟨429, some "Inf", .none⟩)
    (us ++ [again]).Pairwise (fun x y => x.1.nanos ≤ y.1.nanos) ∧
      (again.1.add longest).OnClock ∧
      again.2.onClock? again.1 us.limits = some (us ++ [again]).limits ∧
      (∀ t c d, again.1.nanos ≤ t.nanos → (us ++ [again]).limits.disabled t c = some d →
        d ≤ longest) ∧
      (us ++ [again]).limits.disabled .epoch .transaction = some longest := by
  intro us again
  have clock : (us ++ [again]).Pairwise fun x y => x.1.nanos ≤ y.1.nanos :=
    List.pairwise_pair.mpr (Int.le_refl _)
  have room : (again.1.add longest).OnClock := by decide
  obtain ⟨sums, bounded, -⟩ := cooldown_bounded us again.1 again.2 clock
  refine ⟨clock, room, sums room, bounded.mpr ?_, by decide +kernel⟩
  rintro ⟨i, -, -, x, mem, date⟩
  rcases List.mem_cons.mp mem with rfl | mem
  · cases date
  · rw [List.mem_singleton.mp mem] at date
    have none : readDate? "Inf" = .none := by decide +kernel
    cases none.symm.trans date

/-- A date that is further ahead than any number of seconds can be. -/
theorem date_beyond_longest :
    let us : History := [(.epoch, .response ⟨429, some "Fri, 31 Dec 9999 23:59:59 GMT", .none⟩)]
    us.limits.disabled .epoch .error = some (HttpDate.lastSecond * Instant.perSecond) ∧
      ¬ HttpDate.lastSecond * Instant.perSecond ≤ longest := by
  decide +kernel

end RateLimits

end Telemetry
