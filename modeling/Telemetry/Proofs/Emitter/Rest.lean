import Telemetry.Proofs.Emitter.Barrier

/-! Workers at rest. A worker at rest waits for tasks and has none, nor a batch in the making, and it
stays so until it is given one. A flush that is answered leaves the worker at rest if only items were
in front of it. -/

namespace Telemetry

/-- The worker waits for tasks, or hands on a batch before it does so again. -/
def Worker.Takes {α : Type} (w : Worker α) : Prop := w = .idle ∨ ∃ batch, w = .calling batch .idle

namespace Emitter

variable {α : Type}

/-- The worker waits for tasks, and nothing is left to do. -/
structure Rests (e : Emitter α) : Prop where
  worker : e.worker = .idle
  queue : e.queue = []
  pending : e.pending = []

namespace Rests

variable {e e' : Emitter α} {batches : List (List α)}

theorem step? (r : e.Rests) : e.step? = none := by rw [Emitter.step?, r.worker, r.queue]

theorem expire (r : e.Rests) : e.expire = e := by
  obtain ⟨worker, queue, pending⟩ := r
  cases e
  simp_all [Emitter.expire, flushThen, resume]

/-- A worker at rest does nothing. -/
theorem works (r : e.Rests) (w : Works e batches e') : batches = [] ∧ e' = e := by
  induction w with
  | rest e => exact ⟨rfl, rfl⟩
  | step s =>
    rw [r.step?] at s
    cases s
  | expire _ ih =>
    rw [r.expire] at ih
    exact ih r

theorem turn (r : e.Rests) (t : Turn) : e.turn t = ([], e) := by
  obtain ⟨batches, same⟩ := r.works (works_turn t e)
  exact Prod.ext batches same

theorem isFull (r : e.Rests) : e.isFull = false := by
  have room := e.config.size_pos
  simp only [Emitter.isFull, r.queue, List.length_nil, decide_eq_false_iff_not]
  omega

theorem awaitRoom (r : e.Rests) (n : Nat) : Emitter.awaitRoom n e = ([], e) := by
  cases n with
  | zero => rfl
  | succ n => simp [Emitter.awaitRoom, r.isFull]

/-- There is room for an item in front of a worker at rest. -/
theorem enqueue (r : e.Rests) (s : e.Serving) (pace : Pace) (a : α) :
    e.enqueue pace a = ⟨.accepted, [], e.put (.item a)⟩ := by
  unfold Emitter.enqueue
  simp only [s.accepting, s.start, r.turn, r.awaitRoom, s.isOpen, r.isFull]
  cases e.config.policy <;> rfl

end Rests

/-! ### Answering -/

/-- The worker is taking items, or hands on a batch between two of them; there are only items in
front of the tasks `tail`. -/
structure Taking (tail : List (Task α)) (e : Emitter α) : Prop where
  worker : e.worker.Takes
  queue : ∃ xs : List α, e.queue = xs.map .item ++ tail

variable {e e' : Emitter α} {tail : List (Task α)}

theorem Rests.taking (r : e.Rests) : e.Taking [] := ⟨.inl r.worker, [], r.queue⟩

theorem Taking.put (k : e.Taking []) (a : α) : (e.put (.item a)).Taking [] := by
  obtain ⟨worker, xs, queue⟩ := k
  exact ⟨worker, xs ++ [a], by simp [Emitter.put, queue]⟩

theorem flushThen_idle (e : Emitter α) :
    (e.flushThen .idle).worker.Takes ∧ (e.flushThen .idle).answered = e.answered := by
  unfold flushThen
  split
  · exact ⟨.inl rfl, rfl⟩
  · exact ⟨.inr ⟨_, rfl⟩, rfl⟩

theorem collect_idle (e : Emitter α) (a : α) :
    (e.collect a .idle).worker.Takes ∧ (e.collect a .idle).answered = e.answered := by
  unfold collect
  dsimp only
  split
  · exact flushThen_idle _
  · exact ⟨.inl rfl, rfl⟩

theorem Taking.expire (k : e.Taking tail) :
    e.expire.Taking tail ∧ e.expire.answered = e.answered := by
  unfold Emitter.expire
  split
  · obtain ⟨worker, answered⟩ := flushThen_idle e
    exact ⟨⟨worker, by rw [queue_flushThen]; exact k.queue⟩, answered⟩
  · exact ⟨k, rfl⟩

/-- A worker that is taking items goes on to do so until it gets to the tasks behind them. -/
theorem Taking.step {batch : Option (List α)} (k : e.Taking tail)
    (h : e.step? = some (batch, e')) :
    (e'.Taking tail ∧ e'.answered = e.answered) ∨ (e.worker = .idle ∧ e.queue = tail) := by
  obtain ⟨worker | ⟨batch, worker⟩, xs, queue⟩ := k
  · cases xs with
    | nil => exact .inr ⟨worker, queue⟩
    | cons a xs =>
      simp only [step?, worker, queue, List.map_cons, List.cons_append, Option.some.injEq,
        Prod.mk.injEq] at h
      obtain ⟨-, rfl⟩ := h
      obtain ⟨worker, answered⟩ := collect_idle { e with queue := xs.map .item ++ tail } a
      exact .inl ⟨⟨worker, xs, queue_collect _ a .idle⟩, answered⟩
  · simp only [step?, worker, Option.some.injEq, Prod.mk.injEq] at h
    obtain ⟨-, rfl⟩ := h
    exact .inl ⟨⟨.inl rfl, xs, queue⟩, rfl⟩

theorem Taking.works {batches : List (List α)} (k : e.Taking []) (w : Works e batches e') :
    e'.Taking [] := by
  refine w.keeps (fun e batch e' k h => ?_) (fun e k => k.expire.1) k
  rcases k.step h with ⟨k', -⟩ | ⟨worker, queue⟩
  · exact k'
  · rw [step?, worker, queue] at h
    cases h

/-- The round of a flush that nobody else asked for. -/
def flushRound (t : Nat) : Round := ⟨t, false, [], none⟩

/-- How far the worker has got with a flush behind which there is nothing. -/
inductive Flushing (t : Nat) (e : Emitter α) : Prop
  | taking : e.Taking [.flush t] → t ∉ e.answered → Flushing t e
  | draining (room : Nat) : e.worker = .draining (flushRound t) room → e.queue = [] →
      t ∉ e.answered → Flushing t e
  | handing (batch : List α) : e.worker = .calling batch (.finish (flushRound t)) →
      e.queue = [] → e.pending = [] → t ∉ e.answered → Flushing t e
  | done : e.Rests → Flushing t e

/-- With the queue empty, the worker hands on what it has and is done. -/
theorem flushing_finish {t : Nat} (queue : e.queue = []) (fresh : t ∉ e.answered) :
    (e.flushThen (.finish (flushRound t))).Flushing t := by
  unfold flushThen
  split
  · next empty => exact .done ⟨rfl, queue, List.isEmpty_iff.mp empty⟩
  · exact .handing e.pending rfl queue rfl fresh

theorem Flushing.step {t : Nat} {batch : Option (List α)} (f : e.Flushing t)
    (h : e.step? = some (batch, e')) : e'.Flushing t := by
  cases f with
  | taking k fresh =>
    rcases k.step h with ⟨k', answered⟩ | ⟨worker, queue⟩
    · exact .taking k' (answered ▸ fresh)
    · rw [step?, worker, queue] at h
      cases h
      exact .draining e.config.batchSize rfl rfl fresh
  | draining room worker queue fresh =>
    rw [step?, worker] at h
    cases room with
    | zero =>
      cases h
      exact flushing_finish queue fresh
    | succ room =>
      simp only [queue] at h
      cases h
      exact flushing_finish queue fresh
  | handing batch worker queue pending _ =>
    rw [step?, worker] at h
    cases h
    exact .done ⟨rfl, queue, pending⟩
  | done r =>
    rw [r.step?] at h
    cases h

theorem Flushing.expire {t : Nat} (f : e.Flushing t) : e.expire.Flushing t := by
  cases f with
  | taking k fresh => exact .taking k.expire.1 (k.expire.2 ▸ fresh)
  | draining room worker queue fresh =>
    have same : e.expire = e := by rw [Emitter.expire, worker]
    rw [same]
    exact .draining room worker queue fresh
  | handing batch worker queue pending fresh =>
    have same : e.expire = e := by rw [Emitter.expire, worker]
    rw [same]
    exact .handing batch worker queue pending fresh
  | done r =>
    rw [r.expire]
    exact .done r

theorem Flushing.works {t : Nat} {batches : List (List α)} (f : e.Flushing t)
    (w : Works e batches e') : e'.Flushing t :=
  w.keeps (fun _ _ _ => Flushing.step) (fun _ => Flushing.expire) f

theorem Served.fresh {accepted : List α} {batches : List (List α)}
    (s : Served e accepted batches) : e.tickets ∉ e.answered := by
  obtain ⟨h, i, rfl, -, -⟩ := s
  intro answered
  have given := i.accounted.given _
    (List.mem_append_left _ (List.mem_append_left _ answered))
  omega

/-- A worker that has only items in front of it rests after a flush that succeeds. -/
theorem Live.rests {accepted : List α} {batches : List (List α)} (l : Live e accepted batches)
    (k : e.Taking []) {pace : Pace} (done : (e.flush pace).result = true) :
    (e.flush pace).emitter.Rests := by
  rw [flush_accepting l.serving.accepting, l.serving.start] at done ⊢
  have outcome := requests pace .flush e
  generalize e.request pace .flush = r at outcome done
  cases outcome with
  | unsent w => simp at done
  | unanswered w w' => simp at done
  | @answered _ _ e₁ e₂ w w' answered =>
    obtain ⟨worker, xs, queue⟩ := k.works w
    have asked : (e₁.ask .flush).Taking [.flush e₁.tickets] :=
      ⟨worker, xs, by simp [ask, Emitter.put, queue]⟩
    -- the flush is not answered yet, so it is once the worker is done with it
    have f := (Flushing.taking asked (l.served.works w).fresh).works w'
    cases f with
    | taking _ fresh | draining _ _ _ fresh | handing _ _ _ _ fresh => exact absurd answered fresh
    | done r => exact r

end Emitter

end Telemetry
