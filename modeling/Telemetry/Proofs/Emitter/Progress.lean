import Telemetry.Proofs.Emitter.Moves

/-! What the operations of an emitter come to. Meanwhile the worker takes some steps, and the time of
a batch may end; whatever such progress keeps, every operation keeps that adds nothing to it but its
own task. An emitter that nobody has asked to stop goes on for ever. -/

namespace Telemetry

namespace Emitter

variable {α : Type}

/-- The worker takes steps, and the time of a batch may end between them: from the first emitter
they lead to the second one, and hand on these batches. -/
inductive Works : Emitter α → List (List α) → Emitter α → Prop
  | rest (e : Emitter α) : Works e [] e
  | step {e e' e'' : Emitter α} {batch : Option (List α)} {batches : List (List α)} :
      e.step? = some (batch, e') → Works e' batches e'' → Works e (batch.toList ++ batches) e''
  | expire {e e' : Emitter α} {batches : List (List α)} :
      Works e.expire batches e' → Works e batches e'

namespace Works

variable {e e' e'' : Emitter α} {batches more : List (List α)}

theorem trans (w : Works e batches e') (w' : Works e' more e'') :
    Works e (batches ++ more) e'' := by
  induction w with
  | rest e => exact w'
  | step h _ ih =>
    rw [List.append_assoc]
    exact .step h (ih w')
  | expire _ ih => exact .expire (ih w')

/-- What holds of an emitter holds after any progress if steps and the end of a batch's time keep
it. -/
theorem keeps {P : Emitter α → Prop} (w : Works e batches e')
    (step : ∀ e batch e', P e → e.step? = some (batch, e') → P e')
    (expire : ∀ e, P e → P e.expire) (h : P e) : P e' := by
  induction w with
  | rest e => exact h
  | step s _ ih => exact ih (step _ _ _ h s)
  | expire _ ih => exact ih (expire _ h)

end Works

theorem works_run (n : Nat) (e : Emitter α) : Works e (e.run n).1 (e.run n).2 := by
  induction n generalizing e with
  | zero => exact .rest e
  | succ n ih =>
    rw [run]
    cases h : e.step? with
    | none => exact .rest e
    | some next => exact .step h (ih next.2)

theorem works_runHeld (n : Nat) (e : Emitter α) : Works e [] (e.runHeld n) := by
  induction n generalizing e with
  | zero => exact .rest e
  | succ n ih =>
    rw [runHeld]
    split
    · exact .rest e
    · next waiting =>
      cases h : e.step? with
      | none => exact .rest e
      | some next =>
        -- a worker that is not handing on a batch does not hand one on with its next step
        have hand := inHand_of_step? h
        rw [isCalling_eq_false_iff.mp (by simpa using waiting)] at hand
        have w := Works.step h (ih next.2)
        rwa [← hand] at w

theorem works_turn (t : Turn) (e : Emitter α) : Works e (e.turn t).1 (e.turn t).2 := by
  have ran : Works e (if t.held then ([], e.runHeld t.steps) else e.run t.steps).1
      (if t.held then ([], e.runHeld t.steps) else e.run t.steps).2 := by
    split
    · exact works_runHeld t.steps e
    · exact works_run t.steps e
  rw [turn]
  cases t.expires with
  | false => exact ran
  | true => simpa using ran.trans (.expire (.rest _))

theorem works_awaitRoom (n : Nat) (e : Emitter α) :
    Works e (awaitRoom n e).1 (awaitRoom n e).2 := by
  induction n generalizing e with
  | zero => exact .rest e
  | succ n ih =>
    rw [awaitRoom]
    split
    · exact .rest e
    · exact (works_run 1 e).trans (ih _)

/-! ### Operations -/

/-- The emitter with a request in its queue. -/
def ask (task : Nat → Task α) (e : Emitter α) : Emitter α :=
  { e.put (task e.tickets) with tickets := e.tickets + 1 }

/-- What offering an item may come to. -/
inductive Enqueues (a : α) (e : Emitter α) : Outcome α Enqueued → Prop
  | closed : e.accepting = false → Enqueues a e ⟨.closed, [], e⟩
  | accepted {batches : List (List α)} {e' : Emitter α} : e.accepting = true →
      Works e.start batches e' → Enqueues a e ⟨.accepted, batches, e'.put (.item a)⟩
  | gone {batches : List (List α)} {e' : Emitter α} : e.accepting = true →
      Works e.start batches e' → e'.isOpen = false → Enqueues a e ⟨.gone, batches, e'⟩
  | full {batches : List (List α)} {e' : Emitter α} : e.accepting = true →
      Works e.start batches e' →
      Enqueues a e ⟨.full (e'.dropped + 1), batches, { e' with dropped := e'.dropped + 1 }⟩

theorem enqueues (pace : Pace) (a : α) (e : Emitter α) : Enqueues a e (e.enqueue pace a) := by
  unfold enqueue
  cases accepting : e.accepting with
  | false => exact .closed accepting
  | true =>
    have turned := works_turn pace.turn e.start
    simp only [Bool.not_true, Bool.false_eq_true, if_false]
    split
    · have waited := turned.trans (works_awaitRoom roomSteps _)
      split
      · exact .accepted accepting waited
      · next gone => exact .gone accepting waited (by simpa using gone)
    · split
      · next gone => exact .gone accepting turned (by simpa using gone)
      · split
        · exact .full accepting turned
        · exact .accepted accepting turned

/-- What a request may come to. -/
inductive Requests (task : Nat → Task α) (e : Emitter α) : Outcome α Requested → Prop
  | unsent {batches : List (List α)} {e' : Emitter α} : Works e batches e' →
      Requests task e ⟨.unsent, batches, e'⟩
  | unanswered {before after : List (List α)} {e' e'' : Emitter α} : Works e before e' →
      Works (e'.ask task) after e'' → Requests task e ⟨.unanswered, before ++ after, e''⟩
  | answered {before after : List (List α)} {e' e'' : Emitter α} : Works e before e' →
      Works (e'.ask task) after e'' → e'.tickets ∈ e''.answered →
      Requests task e ⟨.answered, before ++ after, e''⟩

theorem requests (pace : Pace) (task : Nat → Task α) (e : Emitter α) :
    Requests task e (e.request pace task) := by
  have before := works_turn (pace.sub 0).turn e
  unfold request
  dsimp only
  split
  · exact .unsent before
  · have after := works_turn (pace.sub 1).turn ((e.turn (pace.sub 0).turn).2.ask task)
    split
    · next answered => exact .answered before after (by simpa using answered)
    · exact .unanswered before after

theorem flush_closed {e : Emitter α} (closed : e.accepting = false) (pace : Pace) :
    e.flush pace = ⟨true, [], e⟩ := by
  rw [flush, closed]
  rfl

theorem flush_accepting {e : Emitter α} (accepting : e.accepting = true) (pace : Pace) :
    e.flush pace =
      ⟨(e.start.request pace .flush).result = .answered, (e.start.request pace .flush).batches,
        (e.start.request pace .flush).emitter⟩ := by
  rw [flush, accepting]
  rfl

/-- The emitter with which a shutdown begins. -/
def close (e : Emitter α) : Emitter α := { e with accepting := false, released := true }

theorem shutdown_closed {e : Emitter α} (closed : e.accepting = false) (pace : Pace) :
    e.shutdown pace = ⟨.already, [], e⟩ := by
  rw [shutdown, closed]
  rfl

theorem shutdown_born {e : Emitter α} (accepting : e.accepting = true)
    (held : e.released = false) (born : e.worker ≠ .unborn) (pace : Pace) :
    e.shutdown pace =
      ⟨.requested (e.close.request pace .shutdown).result,
        (e.close.request pace .shutdown).batches, (e.close.request pace .shutdown).emitter⟩ := by
  simp only [shutdown, accepting, held, Bool.not_true, Bool.false_eq_true, if_false]
  rfl

theorem shutdown_unborn {e : Emitter α} (accepting : e.accepting = true)
    (held : e.released = false) (unborn : e.worker = .unborn) (empty : e.queue = [])
    (pace : Pace) :
    e.shutdown pace = ⟨.unstarted, [], { e.close with worker := .exited }⟩ := by
  simp [shutdown, accepting, held, unborn, empty, close]

/-! ### What progress leaves alone -/

theorem frame_step {e e' : Emitter α} {batch : Option (List α)}
    (h : e.step? = some (batch, e')) : History.Frame e e' := by
  have frame := History.frame_work ⟨e, true, [], []⟩ false
  unfold History.work at frame
  rw [h] at frame
  cases batch <;> exact frame

theorem frame_expire (e : Emitter α) : History.Frame e e.expire :=
  History.frame_move ⟨e, true, [], []⟩ .expire

theorem Works.frame {e e' : Emitter α} {batches : List (List α)} (w : Works e batches e') :
    History.Frame e e' := by
  induction w with
  | rest e => exact .refl e
  | step h _ ih => exact (frame_step h).trans ih
  | expire _ ih => exact (frame_expire _).trans ih

theorem frame_start (e : Emitter α) : History.Frame e e.start := by
  unfold start
  split
  · split <;> exact ⟨rfl, rfl, rfl, rfl⟩
  · exact .refl _

theorem start_of_born {e : Emitter α} (born : e.worker ≠ .unborn) : e.start = e := by
  unfold start
  split
  · next unborn => exact absurd unborn born
  · rfl

theorem Requests.frame {task : Nat → Task α} {e : Emitter α} {r : Outcome α Requested}
    (h : Requests task e r) :
    r.emitter.accepting = e.accepting ∧ r.emitter.released = e.released := by
  cases h with
  | unsent w => exact ⟨w.frame.accepting, w.frame.released⟩
  | unanswered w w' | answered w w' _ =>
    exact ⟨w'.frame.accepting.trans w.frame.accepting, w'.frame.released.trans w.frame.released⟩

/-- A shutdown ends the taking of items, whatever comes of it. -/
theorem accepting_shutdown (pace : Pace) (e : Emitter α) :
    (e.shutdown pace).emitter.accepting = false := by
  unfold shutdown
  split
  · next closed => simpa using closed
  · dsimp only
    split
    · rfl
    · split
      · rfl
      · exact (requests pace .shutdown e.close).frame.1

theorem enqueue_closed {e : Emitter α} (closed : e.accepting = false) (pace : Pace) (a : α) :
    e.enqueue pace a = ⟨.closed, [], e⟩ := by
  rw [enqueue, closed]
  rfl

end Emitter

/-! ### Going on for ever -/

/-- Whether a worker that goes on like this goes on after its round. -/
def Resume.stays : Resume → Bool
  | .idle => true
  | .draining r _ => !r.ends
  | .finish r => !r.ends
  | .stop => false

/-- Whether a worker is there and will wait for tasks again. -/
def Worker.stays {α : Type} : Worker α → Bool
  | .unborn => false
  | .idle => true
  | .draining r _ => !r.ends
  | .calling _ next => next.stays
  | .exited => false

namespace Emitter

variable {α : Type}

/-- An emitter whose worker was started and that nobody has asked to stop. -/
structure Serving (e : Emitter α) : Prop where
  accepting : e.accepting = true
  held : e.released = false
  stays : e.worker.stays = true
  unasked : ∀ t, Task.shutdown t ∉ e.queue

theorem serving_new (config : BatchConfig) : (new config : Emitter α).start.Serving :=
  ⟨rfl, rfl, rfl, nofun⟩

theorem Serving.born {e : Emitter α} (s : e.Serving) : e.worker ≠ .unborn := by
  intro unborn
  have stays := s.stays
  rw [unborn] at stays
  cases stays

theorem Serving.start {e : Emitter α} (s : e.Serving) : e.start = e := start_of_born s.born

theorem Serving.isOpen {e : Emitter α} (s : e.Serving) : e.isOpen = true := by
  have stays := s.stays
  unfold Emitter.isOpen
  split
  · next exited =>
    rw [exited] at stays
    cases stays
  · rfl

theorem stays_of_resume (next : Resume) (h : next.stays = true) (e : Emitter α) :
    (e.resume next).worker.stays = true := by
  cases next with
  | idle => rfl
  | draining r n => exact h
  | finish r =>
    have goesOn : r.ends = false := by simpa [Resume.stays] using h
    simp [resume, goesOn, Worker.stays]
  | stop => cases h

theorem stays_of_flushThen (next : Resume) (h : next.stays = true) (e : Emitter α) :
    (e.flushThen next).worker.stays = true := by
  unfold flushThen
  split
  · exact stays_of_resume next h e
  · exact h

theorem stays_of_collect (next : Resume) (h : next.stays = true) (a : α) (e : Emitter α) :
    (e.collect a next).worker.stays = true := by
  unfold collect
  dsimp only
  split
  · exact stays_of_flushThen next h _
  · exact stays_of_resume next h _

theorem queue_resume (e : Emitter α) (next : Resume) : (e.resume next).queue = e.queue := by
  cases next <;> rfl

theorem queue_flushThen (e : Emitter α) (next : Resume) : (e.flushThen next).queue = e.queue := by
  unfold flushThen
  split
  · exact queue_resume e next
  · rfl

theorem queue_collect (e : Emitter α) (a : α) (next : Resume) :
    (e.collect a next).queue = e.queue := by
  unfold collect
  dsimp only
  split
  · exact queue_flushThen _ next
  · exact queue_resume _ next

theorem Serving.step {e e' : Emitter α} {batch : Option (List α)} (s : e.Serving)
    (h : e.step? = some (batch, e')) : e'.Serving := by
  have accepting : e'.accepting = true := (frame_step h).accepting.trans s.accepting
  have held : e'.released = false := (frame_step h).released.trans s.held
  obtain ⟨-, -, stays, unasked⟩ := s
  -- a task that is taken is no shutdown, and neither are those behind it
  have rest {task : Task α} {tasks : List (Task α)} (hq : e.queue = task :: tasks) :
      (∀ t, task ≠ .shutdown t) ∧ ∀ t, Task.shutdown t ∉ tasks := by
    rw [hq] at unasked
    exact ⟨fun t same => unasked t (same ▸ List.mem_cons_self),
      fun t later => unasked t (List.mem_cons_of_mem _ later)⟩
  unfold step? at h
  split at h
  · cases h
  · cases h
  · next batch next hw =>
    rw [hw] at stays
    cases h
    exact ⟨accepting, held, stays_of_resume next stays e, by rwa [queue_resume]⟩
  · split at h
    · cases h
    · next hq =>
      cases h
      refine ⟨accepting, held, stays_of_collect .idle rfl _ _, ?_⟩
      rw [queue_collect]
      exact (rest hq).2
    · next hq =>
      cases h
      exact ⟨accepting, held, rfl, (rest hq).2⟩
    · next hq => exact absurd rfl ((rest hq).1 _)
  · next r hw =>
    rw [hw] at stays
    cases h
    exact ⟨accepting, held, stays_of_flushThen (.finish r) stays e, by rwa [queue_flushThen]⟩
  · next r room hw =>
    rw [hw] at stays
    split at h
    · cases h
      exact ⟨accepting, held, stays_of_flushThen (.finish r) stays e, by rwa [queue_flushThen]⟩
    · next hq =>
      cases h
      refine ⟨accepting, held, stays_of_collect (.draining r room) stays _ _, ?_⟩
      rw [queue_collect]
      exact (rest hq).2
    · next hq =>
      cases h
      exact ⟨accepting, held, stays, (rest hq).2⟩
    · next hq => exact absurd rfl ((rest hq).1 _)

theorem Serving.expire {e : Emitter α} (s : e.Serving) : e.expire.Serving := by
  have frame := frame_expire e
  refine ⟨frame.accepting.trans s.accepting, frame.released.trans s.held, ?_, ?_⟩
  · unfold Emitter.expire
    split
    · exact stays_of_flushThen .idle rfl e
    · exact s.stays
  · unfold Emitter.expire
    split
    · rw [queue_flushThen]
      exact s.unasked
    · exact s.unasked

theorem Serving.works {e e' : Emitter α} {batches : List (List α)} (s : e.Serving)
    (w : Works e batches e') : e'.Serving :=
  w.keeps (fun _ _ _ => Serving.step) (fun _ => Serving.expire) s

theorem Serving.put {e : Emitter α} (s : e.Serving) (task : Task α)
    (other : ∀ t, task ≠ .shutdown t) : (e.put task).Serving := by
  refine ⟨s.accepting, s.held, s.stays, fun t ht => ?_⟩
  rcases List.mem_append.mp ht with ht | ht
  · exact s.unasked t ht
  · exact other t (List.mem_singleton.mp ht).symm

/-- Offering an item to an emitter that nobody has asked to stop fails only for want of room. -/
theorem Serving.enqueue {e : Emitter α} (s : e.Serving) (pace : Pace) (a : α) :
    (e.enqueue pace a).emitter.Serving ∧
      ((e.enqueue pace a).result = .accepted ∨ ∃ n, (e.enqueue pace a).result = .full n) := by
  have outcome := enqueues pace a e
  generalize e.enqueue pace a = r at outcome
  cases outcome with
  | closed closed =>
    rw [s.accepting] at closed
    cases closed
  | accepted _ w =>
    rw [s.start] at w
    exact ⟨(s.works w).put _ nofun, .inl rfl⟩
  | gone _ w gone =>
    rw [s.start] at w
    rw [(s.works w).isOpen] at gone
    cases gone
  | full _ w =>
    rw [s.start] at w
    obtain ⟨accepting, held, stays, unasked⟩ := s.works w
    exact ⟨⟨accepting, held, stays, unasked⟩, .inr ⟨_, rfl⟩⟩

theorem Serving.flush {e : Emitter α} (s : e.Serving) (pace : Pace) :
    (e.flush pace).emitter.Serving := by
  have asked {e : Emitter α} (s : e.Serving) : (e.ask .flush).Serving := by
    obtain ⟨accepting, held, stays, unasked⟩ := s.put (.flush e.tickets) nofun
    exact ⟨accepting, held, stays, unasked⟩
  rw [flush_accepting s.accepting, s.start]
  have outcome := requests pace .flush e
  generalize e.request pace .flush = r at outcome
  cases outcome with
  | unsent w => exact s.works w
  | unanswered w w' => exact (asked (s.works w)).works w'
  | answered w w' => exact (asked (s.works w)).works w'

end Emitter

end Telemetry
