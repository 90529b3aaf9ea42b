import Telemetry.Client.Pipeline
import Telemetry.Run

/-! An event's way, watched. Whatever an event meets does what it did before, and it is noted which
callback was asked about what, what it answered, and what was sent. -/

namespace Telemetry

/-- What a computation gave, if it ended with a result. -/
def Outcome.result? {α : Type} : Outcome α → Option α
  | .done a => some a
  | .panicked _ => none
  | .blocked => none

namespace Client

/-- The callbacks that an event can meet. -/
inductive Callback where
  | processor (i : Nat)
  | integration (i : Nat)
  /-- The last callback for a kind of event. -/
  | last (kind : EventKind)
deriving DecidableEq

/-- A call of a callback. There is no answer if the callback panics or never ends. -/
structure Call where
  callback : Callback
  input : Event
  answer : Option (Option Event)

/-- The event that a call passes on. -/
def Call.output? (c : Call) : Option Event := c.answer.join

/-- What was seen of an event's way. -/
structure Sight where
  calls : List Call
  sent : List Envelope

namespace Sight

/-- Nothing was seen. -/
def empty : Sight := ⟨[], []⟩

/-- Calls were seen. -/
def add (seen : Sight) (calls : List Call) : Sight := { seen with calls := seen.calls ++ calls }

/-- An envelope was seen. -/
def send (seen : Sight) (e : Envelope) : Sight := { seen with sent := seen.sent ++ [e] }

end Sight

variable {σ α β ε : Type}

/-- A computation with a note about its result. -/
def noting (note : Option α → Sight → Sight) (x : Run σ α) : Run (σ × Sight) α := fun (s, seen) =>
  let (r, s) := x s
  (r, (s, note r.result? seen))

/-- A computation of which nothing is noted. -/
def unseen (x : Run σ α) : Run (σ × Sight) α := noting (fun _ seen => seen) x

/-- A stage, watched under a name. -/
def watch (name : Callback) (f : Stage (Run σ)) : Stage (Run (σ × Sight)) :=
  ⟨fun e => noting (fun r seen => seen.add [⟨name, e, r⟩]) (f.ask e), f.drop⟩

/-- Stages, watched under names with their numbers. -/
def watchAll (name : Nat → Callback) (fs : List (Stage (Run σ))) :
    List (Stage (Run (σ × Sight))) :=
  fs.mapIdx fun i => watch (name i)

/-- A passage, watched. -/
def Passage.watched (k : Passage (Run σ)) : Passage (Run (σ × Sight)) :=
  { uuid := unseen k.uuid
    unit := unseen k.unit
    processors := watchAll .processor k.processors
    integrations := watchAll .integration k.integrations
    beforeSend := k.beforeSend.map (watch (.last .default))
    beforeSendTransaction := k.beforeSendTransaction.map (watch (.last .transaction))
    isLimited := fun category => unseen (k.isLimited category)
    send := fun e => noting (fun _ seen => seen.send e) (k.send e) }

theorem last_watched (k : Passage (Run σ)) (kind : EventKind) :
    k.watched.last kind = (k.last kind).map (watch (.last kind)) := by
  cases kind <;> rfl

/-! ### What is seen -/

/-- From what was seen before, `y` does what `x` does, and what is seen in the end is as `Q` says of
the result. -/
def Sees (x : Run σ α) (y : Run (σ × Sight) α) (seen : Sight) (Q : Option α → Sight → Prop) :
    Prop :=
  ∀ s, ∃ seen', y (s, seen) = ((x s).1, (x s).2, seen') ∧ Q (x s).1.result? seen'

namespace Sees

variable {seen : Sight}

theorem mono {x : Run σ α} {y : Run (σ × Sight) α} {P Q : Option α → Sight → Prop}
    (h : Sees x y seen P) (hPQ : ∀ r seen', P r seen' → Q r seen') : Sees x y seen Q := by
  intro s
  obtain ⟨seen', hy, hP⟩ := h s
  exact ⟨seen', hy, hPQ _ _ hP⟩

theorem pure {a : α} {Q : Option α → Sight → Prop} (h : Q (some a) seen) :
    Sees (Pure.pure a : Run σ α) (Pure.pure a) seen Q :=
  fun _ => ⟨seen, rfl, h⟩

theorem unseen (x : Run σ α) : Sees x (unseen x) seen fun _ seen' => seen' = seen :=
  fun _ => ⟨_, rfl, rfl⟩

theorem watch (name : Callback) (f : Stage (Run σ)) (e : Event) :
    Sees (f.ask e) ((watch name f).ask e) seen fun r seen' => seen' = seen.add [⟨name, e, r⟩] :=
  fun _ => ⟨_, rfl, rfl⟩

theorem send (k : Passage (Run σ)) (e : Envelope) :
    Sees (k.send e) (k.watched.send e) seen fun _ seen' => seen' = seen.send e :=
  fun _ => ⟨_, rfl, rfl⟩

theorem bind {x : Run σ α} {y : Run (σ × Sight) α} {f : α → Run σ β}
    {g : α → Run (σ × Sight) β} {P : Option α → Sight → Prop} {Q : Option β → Sight → Prop}
    (hx : Sees x y seen P) (unwound : ∀ seen', P none seen' → Q none seen')
    (next : ∀ a seen', P (some a) seen' → Sees (f a) (g a) seen' Q) :
    Sees (x >>= f) (y >>= g) seen Q := by
  intro s
  obtain ⟨seen', hy, hP⟩ := hx s
  show ∃ seen'', Run.bind y g (s, seen) = ((Run.bind x f s).1, (Run.bind x f s).2, seen'') ∧
    Q (Run.bind x f s).1.result? seen''
  simp only [Run.bind, hy]
  rcases hxs : x s with ⟨r, s'⟩
  rw [hxs] at hP
  cases r with
  | done a => exact next a seen' hP s'
  | panicked p => exact ⟨seen', rfl, unwound seen' hP⟩
  | blocked => exact ⟨seen', rfl, unwound seen' hP⟩

/-- The next step is taken only if the one before it gives a result that is no error. -/
theorem andThen {x : ExceptT ε (Run σ) α} {y : ExceptT ε (Run (σ × Sight)) α}
    {f : α → ExceptT ε (Run σ) β} {g : α → ExceptT ε (Run (σ × Sight)) β}
    {P : Option (Except ε α) → Sight → Prop} {Q : Option (Except ε β) → Sight → Prop}
    (hx : Sees x.run y.run seen P) (unwound : ∀ seen', P none seen' → Q none seen')
    (failed : ∀ d seen', P (some (.error d)) seen' → Q (some (.error d)) seen')
    (next : ∀ a seen', P (some (.ok a)) seen' → Sees (f a).run (g a).run seen' Q) :
    Sees (x >>= f).run (y >>= g).run seen Q :=
  bind hx unwound fun
    | .ok a, seen' => next a seen'
    | .error d, seen' => fun hP => pure (failed d seen' hP)

/-- The same after a computation that cannot fail. -/
theorem liftThen {x : Run σ α} {y : Run (σ × Sight) α} {f : α → ExceptT ε (Run σ) β}
    {g : α → ExceptT ε (Run (σ × Sight)) β} {P : Option α → Sight → Prop}
    {Q : Option (Except ε β) → Sight → Prop} (hx : Sees x y seen P)
    (unwound : ∀ seen', P none seen' → Q none seen')
    (next : ∀ a seen', P (some a) seen' → Sees (f a).run (g a).run seen' Q) :
    Sees (liftM x >>= f).run (liftM y >>= g).run seen Q := by
  have lifted : Sees (liftM x : ExceptT ε (Run σ) α).run
      (liftM y : ExceptT ε (Run (σ × Sight)) α).run seen
      fun r seen' => ∃ r', r = Option.map Except.ok r' ∧ P r' seen' :=
    bind hx (fun _ hP => ⟨none, rfl, hP⟩) fun a _ hP => pure ⟨some a, rfl, hP⟩
  refine andThen lifted ?_ ?_ ?_
  · rintro seen' ⟨_ | _, h, hP⟩
    · exact unwound seen' hP
    · cases h
  · rintro d seen' ⟨_ | _, h, _⟩ <;> cases h
  · rintro a seen' ⟨_ | _, h, hP⟩
    · cases h
    · cases h
      exact next _ seen' hP

end Sees

end Client

end Telemetry
