import Telemetry.Proofs.Emitter.Conservation

/-! Room in the queue. A worker with a full queue in front of it takes a task within a few steps, or
stops; so whoever waits that long has got room, unless nobody is left to take the task. -/

namespace Telemetry.Emitter

variable {α : Type}

/-- An emitter whose worker was started, with no more in its queue than there is room for. -/
structure Running (e : Emitter α) : Prop where
  born : e.worker ≠ .unborn
  room : e.queue.length ≤ e.config.batchSize

/-! ### Steps -/

/-- What a step may do to a running emitter apart from its queue. -/
structure Stays (e e' : Emitter α) : Prop where
  born : e'.worker ≠ .unborn
  config : e'.config = e.config
  queue : e'.queue = e.queue

theorem stays_resume (e : Emitter α) (next : Resume) : Stays e (e.resume next) := by
  refine ⟨?_, ?_, ?_⟩
  · cases next with
    | idle | draining | stop => exact nofun
    | finish r => cases ends : r.ends <;> simp [resume, ends]
  · cases next <;> rfl
  · cases next <;> rfl

theorem stays_flushThen (e : Emitter α) (next : Resume) : Stays e (e.flushThen next) := by
  unfold flushThen
  split
  · exact stays_resume e next
  · exact ⟨nofun, rfl, rfl⟩

theorem stays_collect (e : Emitter α) (a : α) (next : Resume) : Stays e (e.collect a next) := by
  unfold collect
  dsimp only
  split
  · obtain ⟨born, config, queue⟩ := stays_flushThen { e with pending := e.pending ++ [a] } next
    exact ⟨born, config, queue⟩
  · obtain ⟨born, config, queue⟩ := stays_resume { e with pending := e.pending ++ [a] } next
    exact ⟨born, config, queue⟩

/-- A step takes at most one task from the queue. -/
theorem step?_cases {e e' : Emitter α} {b : Option (List α)} (h : e.step? = some (b, e')) :
    e'.worker ≠ .unborn ∧ e'.config = e.config ∧
      (e'.queue = e.queue ∨ ∃ task, e.queue = task :: e'.queue) := by
  unfold step? at h
  split at h
  · cases h
  · cases h
  · cases h
    obtain ⟨born, config, queue⟩ := stays_resume e _
    exact ⟨born, config, .inl queue⟩
  · split at h
    · cases h
    · next queue =>
      cases h
      obtain ⟨born, config, same⟩ := stays_collect { e with queue := _ } _ .idle
      exact ⟨born, config, .inr ⟨_, by rw [same]; exact queue⟩⟩
    · next queue =>
      cases h
      exact ⟨nofun, rfl, .inr ⟨_, queue⟩⟩
    · next queue =>
      cases h
      exact ⟨nofun, rfl, .inr ⟨_, queue⟩⟩
  · cases h
    obtain ⟨born, config, queue⟩ := stays_flushThen e _
    exact ⟨born, config, .inl queue⟩
  · split at h
    · cases h
      obtain ⟨born, config, queue⟩ := stays_flushThen e _
      exact ⟨born, config, .inl queue⟩
    · next queue =>
      cases h
      obtain ⟨born, config, same⟩ := stays_collect { e with queue := _ } _ _
      exact ⟨born, config, .inr ⟨_, by rw [same]; exact queue⟩⟩
    · next queue =>
      cases h
      exact ⟨nofun, rfl, .inr ⟨_, queue⟩⟩
    · next queue =>
      cases h
      exact ⟨nofun, rfl, .inr ⟨_, queue⟩⟩

theorem Running.step {e e' : Emitter α} {b : Option (List α)} (r : e.Running)
    (h : e.step? = some (b, e')) : e'.Running := by
  obtain ⟨born, config, queue⟩ := step?_cases h
  refine ⟨born, ?_⟩
  have room := r.room
  rw [config]
  rcases queue with same | ⟨task, taken⟩
  · rwa [same]
  · rw [taken, List.length_cons] at room
    omega

theorem Running.expire {e : Emitter α} (r : e.Running) : e.expire.Running := by
  unfold Emitter.expire
  split
  · obtain ⟨born, config, queue⟩ := stays_flushThen e .idle
    exact ⟨born, by rw [config, queue]; exact r.room⟩
  · exact r

theorem Running.put {e : Emitter α} (r : e.Running) (room : e.isFull = false) (t : Task α) :
    (e.put t).Running := by
  have room : ¬ e.config.batchSize ≤ e.queue.length := by simpa [isFull] using room
  refine ⟨r.born, ?_⟩
  show (e.queue ++ [t]).length ≤ e.config.batchSize
  rw [List.length_append, List.length_singleton]
  omega

/-! ### Waiting -/

/-- Steps until a worker with tasks in front of it takes one or stops, at most. -/
def patience : Worker α → Nat
  | .unborn => 0
  | .exited => 0
  | .idle => 1
  | .draining _ (_ + 1) => 1
  | .draining _ 0 => 3
  | .calling _ .idle => 2
  | .calling _ (.draining _ (_ + 1)) => 2
  | .calling _ (.draining _ 0) => 4
  | .calling _ (.finish _) => 2
  | .calling _ .stop => 1

theorem patience_le (w : Worker α) : patience w ≤ 4 := by
  unfold patience
  split <;> omega

theorem patience_pos {w : Worker α} (born : w ≠ .unborn) (alive : w ≠ .exited) : 0 < patience w := by
  unfold patience
  split
  · exact absurd rfl born
  · exact absurd rfl alive
  all_goals omega

theorem patience_resume (batch : List α) (e : Emitter α) (next : Resume) :
    patience (e.resume next).worker < patience (.calling batch next) := by
  cases next with
  | idle => exact Nat.lt_succ_self 1
  | stop => exact Nat.one_pos
  | draining r n =>
    cases n with
    | zero => exact Nat.lt_succ_self 3
    | succ n => exact Nat.lt_succ_self 1
  | finish r => cases ends : r.ends <;> simp [resume, ends, patience]

theorem patience_flushThen (e : Emitter α) (r : Round) :
    patience (e.flushThen (.finish r)).worker < 3 := by
  unfold flushThen
  split
  · exact Nat.lt_succ_of_lt (patience_resume [] e (.finish r))
  · exact Nat.lt_succ_self 2

theorem length_collect (e : Emitter α) (a : α) (next : Resume) :
    (e.collect a next).queue.length = e.queue.length := by
  rw [(stays_collect e a next).queue]

/-- A worker with tasks in front of it takes one, or comes closer to that. -/
theorem step_towards {e : Emitter α} (running : e.Running) (isOpen : e.isOpen = true)
    (tasks : e.queue ≠ []) :
    ∃ b e', e.step? = some (b, e') ∧
      (e'.queue.length < e.queue.length ∨ patience e'.worker < patience e.worker) := by
  have born := running.born
  obtain ⟨config, accepting, released, dropped, queue, pending, worker, tickets, answered⟩ := e
  obtain ⟨task, rest, rfl⟩ := List.exists_cons_of_ne_nil tasks
  cases worker with
  | unborn => exact absurd rfl born
  | exited => cases isOpen
  | calling batch next => exact ⟨_, _, rfl, .inr (patience_resume batch _ next)⟩
  | idle =>
    cases task with
    | item a =>
      refine ⟨_, _, rfl, .inl ?_⟩
      rw [length_collect]
      exact Nat.lt_succ_self _
    | flush t => exact ⟨_, _, rfl, .inl (Nat.lt_succ_self _)⟩
    | shutdown t => exact ⟨_, _, rfl, .inl (Nat.lt_succ_self _)⟩
  | draining r n =>
    cases n with
    | zero => exact ⟨_, _, rfl, .inr (patience_flushThen _ r)⟩
    | succ n =>
      cases task with
      | item a =>
        refine ⟨_, _, rfl, .inl ?_⟩
        rw [length_collect]
        exact Nat.lt_succ_self _
      | flush t => exact ⟨_, _, rfl, .inl (Nat.lt_succ_self _)⟩
      | shutdown t => exact ⟨_, _, rfl, .inl (Nat.lt_succ_self _)⟩

theorem run_one {e e' : Emitter α} {b : Option (List α)} (h : e.step? = some (b, e')) :
    e.run 1 = (b.toList, e') := by
  rw [run, h]
  simp [run]

/-- Whoever waits long enough has got room, or the worker has stopped. -/
theorem awaitRoom_room {e : Emitter α} (running : e.Running) {n : Nat}
    (enough : patience e.worker ≤ n) :
    (awaitRoom n e).2.isOpen = false ∨ (awaitRoom n e).2.isFull = false := by
  induction n generalizing e with
  | zero =>
    by_cases stopped : e.worker = .exited
    · left
      rw [awaitRoom, isOpen, stopped]
    · have := patience_pos running.born stopped
      omega
  | succ n ih =>
    rw [awaitRoom]
    split
    · next done => simpa using done
    · next waiting =>
      have waiting : e.isOpen = true ∧ e.isFull = true := by simpa using waiting
      obtain ⟨isOpen, full⟩ := waiting
      have full : e.config.batchSize ≤ e.queue.length := by simpa [isFull] using full
      have tasks : e.queue ≠ [] := by
        intro none
        have := e.config.size_pos
        rw [none, List.length_nil] at full
        omega
      obtain ⟨b, e', step, closer⟩ := step_towards running isOpen tasks
      have running' := running.step step
      simp only [run_one step]
      rcases closer with taken | closer
      · -- there is room now, so the waiting is over
        have room : e'.isFull = false := by
          have config := (step?_cases step).2.1
          have := running.room
          simp only [isFull, decide_eq_false_iff_not, config]
          omega
        cases n with
        | zero => exact .inr room
        | succ n =>
          rw [awaitRoom, room]
          simp [room]
      · exact ih running' (by omega)

end Telemetry.Emitter
