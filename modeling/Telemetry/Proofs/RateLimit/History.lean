import Telemetry.RateLimit

/-! What servers have announced. Every update of the limits comes to a list of notices, each of one
limit, on a category or on everything; and after any updates, the limits are those of the last
notices. -/

namespace Telemetry.RateLimits

/-- A limit that is announced: on a category or, if none is named, on everything. -/
structure Notice where
  category : Option Category
  limit : Instant

/-- What changes the limits. -/
inductive Update where
  | header (text : String)
  | retryAfter (text : String)
  | tooMany
  | response (r : Response)

/-- The limit on a category or on everything. -/
def on (l : RateLimits) : Option Category → Option Instant
  | some c => l.category c
  | .none => l.everything

def note (l : RateLimits) (n : Notice) : RateLimits :=
  match n.category with
  | some c => { l with category := fun d => if d = c then some n.limit else l.category d }
  | .none => { l with everything := some n.limit }

theorem on_note (l : RateLimits) (n : Notice) (s : Option Category) :
    (l.note n).on s = if n.category = s then some n.limit else l.on s := by
  obtain ⟨category, limit⟩ := n
  cases category <;> cases s <;> simp [note, on, eq_comm]

/-! ### Notices of an update -/

/-- The notices of one group of the header. -/
def groupNotices (now : Instant) (text : String) : List Notice :=
  match splitText ':' text with
  | seconds :: categories :: _ :: _ =>
    match FloatText.read? (trimBlank seconds) with
    | some seconds =>
      let everything := if categories.isEmpty then [⟨.none, after now seconds⟩] else []
      let named := (splitText ';' categories).filterMap Category.parse?
      everything ++ named.map fun c => ⟨some c, after now seconds⟩
    | .none => []
  | _ => []

theorem foldl_limitNamed (limit : Instant) (names : List String) (l : RateLimits) :
    names.foldl (limitNamed limit) l =
      ((names.filterMap Category.parse?).map fun c => ⟨some c, limit⟩).foldl note l := by
  induction names generalizing l with
  | nil => rfl
  | cons name names ih =>
    rw [List.foldl_cons, ih, List.filterMap_cons]
    cases parsed : Category.parse? name <;> simp [limitNamed, parsed, note]

theorem group_eq (now : Instant) (l : RateLimits) (text : String) :
    group now l text = (groupNotices now text).foldl note l := by
  unfold group groupNotices
  rcases splitText ':' text with _ | ⟨seconds, _ | ⟨categories, _ | ⟨scope, rest⟩⟩⟩
  · rfl
  · rfl
  · rfl
  · dsimp only
    cases FloatText.read? (trimBlank seconds) with
    | none => rfl
    | some seconds =>
      dsimp only
      rw [foldl_limitNamed, List.foldl_append]
      split <;> rfl

def headerNotices (now : Instant) (header : String) : List Notice :=
  (splitText ',' header).flatMap fun g => groupNotices now (trimBlank g)

theorem groups_eq (now : Instant) (header : String) (l : RateLimits) :
    groups now header l = (headerNotices now header).foldl note l := by
  unfold groups headerNotices
  induction splitText ',' header generalizing l with
  | nil => rfl
  | cons g gs ih => rw [List.foldl_cons, ih, group_eq, List.flatMap_cons, List.foldl_append]

def retryNotices (now : Instant) (header : String) : List Notice :=
  match FloatText.read? (trimBlank header) with
  | some seconds => [⟨.none, after now seconds⟩]
  | .none => (Instant.ofHttpDate? (trimBlank header)).toList.map fun i => ⟨.none, i⟩

theorem retryAfter_eq (now : Instant) (header : String) (l : RateLimits) :
    retryAfter now header l = (retryNotices now header).foldl note l := by
  unfold retryAfter retryNotices
  dsimp only
  cases FloatText.read? (trimBlank header) with
  | some seconds => rfl
  | none => cases Instant.ofHttpDate? (trimBlank header) <;> rfl

def tooManyNotice (now : Instant) : Notice :=
  ⟨.none, now.add (defaultSeconds * Instant.perSecond)⟩

namespace Update

def apply (now : Instant) (l : RateLimits) : Update → RateLimits
  | header text => groups now text l
  | retryAfter text => RateLimits.retryAfter now text l
  | tooMany => RateLimits.tooMany now l
  | response r => respond now r l

def notices (now : Instant) : Update → List Notice
  | header text => headerNotices now text
  | retryAfter text => retryNotices now text
  | tooMany => [tooManyNotice now]
  | response r =>
    match r.rateLimits, r.retryAfter with
    | some text, _ => headerNotices now text
    | .none, some text => retryNotices now text
    | .none, .none => if r.status = 429 then [tooManyNotice now] else []

theorem apply_eq (now : Instant) (l : RateLimits) (u : Update) :
    u.apply now l = (u.notices now).foldl note l := by
  cases u with
  | header text => exact groups_eq now text l
  | retryAfter text => exact retryAfter_eq now text l
  | tooMany => rfl
  | response r =>
    obtain ⟨status, retry, limits⟩ := r
    cases limits with
    | some text => exact groups_eq now text l
    | none =>
      cases retry with
      | some text => exact retryAfter_eq now text l
      | none =>
        simp only [apply, notices, respond]
        split <;> rfl

end Update

/-! ### Histories -/

/-- Updates with their times, the first one first. -/
abbrev History := List (Instant × Update)

namespace History

def limits (us : History) : RateLimits := us.foldl (fun l u => u.2.apply u.1 l) .none

def notices (us : History) : List Notice := us.flatMap fun u => u.2.notices u.1

/-- The last limit that was announced on a category or on everything. -/
def recorded (us : History) (s : Option Category) : Option Instant :=
  (us.notices.filter fun n => n.category = s).getLast?.map Notice.limit

theorem on_foldl_note (ns : List Notice) (l : RateLimits) (s : Option Category) :
    (ns.foldl note l).on s =
      ((ns.filter fun n => n.category = s).getLast?.map Notice.limit).or (l.on s) := by
  induction ns generalizing l with
  | nil => rfl
  | cons n ns ih =>
    rw [List.foldl_cons, ih, on_note]
    by_cases same : n.category = s
    · simp only [same, if_pos, decide_true, List.filter_cons_of_pos, List.getLast?_cons]
      cases (ns.filter fun n => n.category = s).getLast? <;> rfl
    · simp [same]

/-- The limits are those of the last notices, whatever the updates were and whenever they came. -/
theorem on_limits (us : History) (s : Option Category) : us.limits.on s = us.recorded s := by
  have noted (l : RateLimits) :
      us.foldl (fun l u => u.2.apply u.1 l) l = us.notices.foldl note l := by
    induction us generalizing l with
    | nil => rfl
    | cons u us ih =>
      have first : notices (u :: us) = u.2.notices u.1 ++ notices us := List.flatMap_cons
      rw [List.foldl_cons, ih, Update.apply_eq, first, List.foldl_append]
  have nothing : RateLimits.none.on s = .none := by cases s <;> rfl
  rw [limits, noted, on_foldl_note, nothing, Option.or_none, recorded]

theorem everything_limits (us : History) : us.limits.everything = us.recorded .none :=
  us.on_limits .none

theorem category_limits (us : History) (c : Category) :
    us.limits.category c = us.recorded (some c) :=
  us.on_limits (some c)

end History

end Telemetry.RateLimits
