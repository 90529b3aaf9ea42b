import Telemetry.Proofs.Emitter.History

/-! Conservation of items. Whatever happens to an emitter, the batches handed on, the batch in the
making and the items of the queue, one after the other, are the items that were put into the queue;
and a request is answered only when everything in front of it was taken. -/

namespace Telemetry.Emitter.History

variable {α : Type}

/-- What holds of a history apart from where its worker is, which is handing on the batches of
`hand` and has not yet answered the tickets of `round`. -/
structure Accounted (h : History α) (hand : List (List α)) (round : List Nat) : Prop where
  split : ∃ received, h.sent = received ++ h.emitter.queue ∧
    items received = (h.taken ++ hand).flatten ++ h.emitter.pending
  sizes : ∀ b ∈ h.taken ++ hand, b ≠ [] ∧ b.length ≤ h.emitter.config.batchSize
  distinct : (ticketsOf h.emitter.queue).Nodup
  apart : ∀ t ∈ h.emitter.answered ++ round, t ∉ ticketsOf h.emitter.queue
  given : ∀ t ∈ h.emitter.answered ++ round ++ ticketsOf h.emitter.queue, t < h.emitter.tickets
  answers : ∀ before task later t, h.sent = before ++ task :: later → task.ticket? = some t →
    t ∈ h.emitter.answered → items before <+: h.taken.flatten

/-- The invariant of a history: its items are accounted for, the batch in the making is not full,
and there is none while the worker hands on a batch and after it stops. -/
structure Holds (h : History α) : Prop where
  accounted : h.Accounted h.emitter.inHand h.emitter.worker.tickets
  room : h.emitter.pending.length < h.emitter.config.batchSize
  empty : h.emitter.worker.collects = false → h.emitter.pending = []

/-! ### Parts of a step -/

theorem Accounted.mono {h : History α} {hand : List (List α)} {round round' : List Nat}
    (a : h.Accounted hand round) (hr : ∀ t ∈ round', t ∈ round) : h.Accounted hand round' := by
  have sub : ∀ t ∈ h.emitter.answered ++ round', t ∈ h.emitter.answered ++ round := by
    intro t ht
    rcases List.mem_append.mp ht with ht | ht
    · exact List.mem_append_left _ ht
    · exact List.mem_append_right _ (hr t ht)
  refine ⟨a.split, a.sizes, a.distinct, fun t ht => a.apart t (sub t ht), fun t ht => ?_, a.answers⟩
  rcases List.mem_append.mp ht with ht | ht
  · exact a.given t (List.mem_append_left _ (sub t ht))
  · exact a.given t (List.mem_append_right _ ht)

/-- Where the worker is plays no part in it. -/
theorem Accounted.worker {h : History α} {hand : List (List α)} {round : List Nat}
    (a : h.Accounted hand round) (w : Worker α) :
    Accounted { h with emitter := { h.emitter with worker := w } } hand round :=
  ⟨a.split, a.sizes, a.distinct, a.apart, a.given, a.answers⟩

/-- A task that is no longer in the queue has been received. -/
theorem received_of_not_mem {before received queue later : List (Task α)} {task : Task α}
    (hs : before ++ task :: later = received ++ queue) (hq : task ∉ queue) :
    ∃ rest, received = before ++ rest := by
  rcases List.append_eq_append_iff.mp hs with ⟨rest, hr, -⟩ | ⟨rest, hb, hq'⟩
  · exact ⟨rest, hr⟩
  · cases rest with
    | nil => exact ⟨[], by simpa using hb.symm⟩
    | cons r rest => exact absurd (hq' ▸ by simp) hq

/-- Everything in front of a request of the round was received. -/
theorem Accounted.prefix_of_round {h : History α} {round : List Nat} (a : h.Accounted [] round)
    (hp : h.emitter.pending = []) {before later : List (Task α)} {task : Task α} {t : Nat}
    (hs : h.sent = before ++ task :: later) (ht : task.ticket? = some t) (hr : t ∈ round) :
    items before <+: h.taken.flatten := by
  obtain ⟨received, hsplit, hitems⟩ := a.split
  have hq : task ∉ h.emitter.queue := fun hm =>
    a.apart t (List.mem_append_right _ hr) (mem_ticketsOf hm ht)
  obtain ⟨rest, rfl⟩ := received_of_not_mem (hs.symm.trans hsplit) hq
  rw [items_append, hp, List.append_nil, List.append_nil] at hitems
  exact ⟨items rest, hitems⟩

/-- Going on keeps the invariant; answering requires that the batch in the making is empty. -/
theorem Accounted.resume {h : History α} {next : Resume} (a : h.Accounted [] next.tickets)
    (room : h.emitter.pending.length < h.emitter.config.batchSize)
    (empty : next.settles = true → h.emitter.pending = []) :
    Holds { h with emitter := h.emitter.resume next } := by
  cases next with
  | idle => exact ⟨a.worker .idle, room, by simp [Emitter.resume, Worker.collects]⟩
  | draining r n =>
    exact ⟨a.worker (.draining r n), room, by simp [Emitter.resume, Worker.collects]⟩
  | stop => exact ⟨a.worker .exited, room, fun _ => empty rfl⟩
  | finish r =>
    have hp : h.emitter.pending = [] := empty rfl
    have hand : (h.emitter.resume (.finish r)).inHand = [] := by
      cases hr : r.ends <;> simp [Emitter.resume, inHand, hr]
    have round : (h.emitter.resume (.finish r)).worker.tickets = [] := by
      cases hr : r.ends <;> simp [Emitter.resume, Worker.tickets, hr]
    refine ⟨?_, room, fun _ => hp⟩
    rw [hand, round]
    have old : ∀ t ∈ h.emitter.answered ++ r.answers ++ [],
        t ∈ h.emitter.answered ++ r.tickets := by
      intro t ht
      rw [List.append_nil] at ht
      rcases List.mem_append.mp ht with ht | ht
      · exact List.mem_append_left _ ht
      · exact List.mem_append_right _ (Round.mem_tickets_of_mem_answers ht)
    refine ⟨a.split, a.sizes, a.distinct, fun t ht => a.apart t (old t ht), fun t ht => ?_, ?_⟩
    · rcases List.mem_append.mp ht with ht | ht
      · exact a.given t (List.mem_append_left _ (old t ht))
      · exact a.given t (List.mem_append_right _ ht)
    · intro before task later t hs ht hm
      rcases List.mem_append.mp hm with hm | hm
      · exact a.answers before task later t hs ht hm
      · exact a.prefix_of_round hp hs ht (Round.mem_tickets_of_mem_answers hm)

/-- Handing on the batch in the making keeps the invariant. -/
theorem Accounted.flushThen {h : History α} (next : Resume) (a : h.Accounted [] next.tickets)
    (full : h.emitter.pending.length ≤ h.emitter.config.batchSize) :
    Holds { h with emitter := h.emitter.flushThen next } := by
  by_cases hp : h.emitter.pending = []
  · have he : h.emitter.flushThen next = h.emitter.resume next := by simp [Emitter.flushThen, hp]
    rw [he]
    exact a.resume (by rw [hp]; exact h.emitter.config.size_pos) fun _ => hp
  · have he : h.emitter.flushThen next =
        { h.emitter with pending := [], worker := .calling h.emitter.pending next } := by
      simp [Emitter.flushThen, hp]
    rw [he]
    obtain ⟨received, hsplit, hitems⟩ := a.split
    refine ⟨⟨⟨received, hsplit, ?_⟩, ?_, a.distinct, a.apart, a.given, a.answers⟩,
      h.emitter.config.size_pos, fun _ => rfl⟩
    · rw [hitems]
      simp [inHand, taken]
    · intro b hb
      rcases List.mem_append.mp hb with hb | hb
      · exact a.sizes b (List.mem_append_left _ hb)
      · obtain rfl : b = h.emitter.pending := by simpa [inHand] using hb
        exact ⟨hp, full⟩

/-- Taking an item from the queue into the batch in the making. -/
theorem Accounted.takeItem {h : History α} {hand : List (List α)} {round : List Nat} {x : α}
    {rest : List (Task α)} (a : h.Accounted hand round) (hq : h.emitter.queue = .item x :: rest) :
    Accounted
      { h with emitter := { h.emitter with queue := rest, pending := h.emitter.pending ++ [x] } }
      hand round := by
  obtain ⟨received, hsplit, hitems⟩ := a.split
  have distinct := a.distinct
  have apart := a.apart
  have given := a.given
  rw [hq, ticketsOf_item_cons] at distinct apart given
  refine ⟨⟨received ++ [.item x], ?_, ?_⟩, a.sizes, distinct, apart, given, a.answers⟩
  · rw [hsplit, hq]
    simp
  · rw [items_append, hitems]
    simp [taken]

/-- Taking a request from the queue into the round. -/
theorem Accounted.takeRequest {h : History α} {hand : List (List α)} {round : List Nat}
    {task : Task α} {t : Nat} {rest : List (Task α)} (a : h.Accounted hand round)
    (round' : List Nat) (hq : h.emitter.queue = task :: rest) (ht : task.ticket? = some t)
    (hr : ∀ t' ∈ round', t' ∈ round ∨ t' = t) :
    Accounted { h with emitter := { h.emitter with queue := rest } } hand round' := by
  obtain ⟨received, hsplit, hitems⟩ := a.split
  have distinct := a.distinct
  have apart := a.apart
  have given := a.given
  rw [hq, ticketsOf_request_cons ht] at distinct apart given
  obtain ⟨fresh, distinct⟩ := List.nodup_cons.mp distinct
  have old : ∀ t' ∈ h.emitter.answered ++ round', t' ∈ h.emitter.answered ++ round ∨ t' = t := by
    intro t' ht'
    rcases List.mem_append.mp ht' with ht' | ht'
    · exact .inl (List.mem_append_left _ ht')
    · exact (hr t' ht').imp_left (List.mem_append_right _)
  refine ⟨⟨received ++ [task], ?_, ?_⟩, a.sizes, distinct, fun t' ht' => ?_, fun t' ht' => ?_,
    a.answers⟩
  · rw [hsplit, hq]
    simp
  · rw [items_append, hitems, items_request_cons ht]
    simp [taken]
  · rcases old t' ht' with ht' | rfl
    · exact fun hm => apart t' ht' (List.mem_cons_of_mem _ hm)
    · exact fresh
  · rcases List.mem_append.mp ht' with ht' | ht'
    · rcases old t' ht' with ht' | rfl
      · exact given t' (List.mem_append_left _ ht')
      · exact given t' (List.mem_append_right _ (List.mem_cons_self ..))
    · exact given t' (List.mem_append_right _ (List.mem_cons_of_mem _ ht'))

/-- The end of a call. -/
theorem Accounted.called {h : History α} {round : List Nat} {b : List α}
    (a : h.Accounted [b] round) (panics : Bool) :
    Accounted { h with calls := h.calls ++ [⟨b, panics⟩] } [] round := by
  obtain ⟨received, hsplit, hitems⟩ := a.split
  refine ⟨⟨received, hsplit, ?_⟩, ?_, a.distinct, a.apart, a.given, ?_⟩
  · rw [hitems]
    simp [taken]
  · intro b' hb'
    exact a.sizes b' (by simpa [taken] using hb')
  · intro before task later t hs ht hm
    have grows : h.taken.flatten <+:
        (taken { h with calls := h.calls ++ [⟨b, panics⟩] }).flatten := ⟨b, by simp [taken]⟩
    exact (a.answers before task later t hs ht hm).trans grows

/-! ### Moves -/

/-- Putting an item received into the batch, and handing the batch on if that fills it. -/
theorem Accounted.collect {h : History α} (next : Resume) {x : α} {rest : List (Task α)}
    (a : h.Accounted [] next.tickets) (hq : h.emitter.queue = .item x :: rest)
    (room : h.emitter.pending.length < h.emitter.config.batchSize) (hn : next.settles = false) :
    Holds { h with emitter := { h.emitter with queue := rest }.collect x next } := by
  have received := a.takeItem hq
  unfold Emitter.collect
  dsimp only
  split
  · exact received.flushThen next (by simp only [List.length_append, List.length_singleton]; omega)
  · exact received.resume (by simp only; omega) fun hs => by simp [hn] at hs

theorem Holds.ofCollecting {h : History α}
    (a : h.Accounted h.emitter.inHand h.emitter.worker.tickets)
    (room : h.emitter.pending.length < h.emitter.config.batchSize)
    (collects : h.emitter.worker.collects = true) : h.Holds := by
  refine ⟨a, room, fun stopped => ?_⟩
  rw [collects] at stopped
  cases stopped

/-- A step of the worker keeps the invariant. -/
theorem Holds.work {h : History α} (i : h.Holds) (panics : Bool) : (h.work panics).Holds := by
  obtain ⟨a, room, empty⟩ := i
  obtain ⟨⟨config, accepting, released, dropped, queue, pending, worker, tickets, answered⟩,
    attached, sent, calls⟩ := h
  cases worker with
  | unborn | exited => exact ⟨a, room, empty⟩
  | calling batch next =>
    obtain rfl : pending = [] := empty rfl
    exact (a.called panics).resume config.size_pos fun _ => rfl
  | idle =>
    rcases queue with _ | ⟨x | t | t, rest⟩
    · exact ⟨a, room, empty⟩
    · exact Accounted.collect .idle a rfl room rfl
    · have received := a.takeRequest [t] rfl rfl (by simp)
      exact .ofCollecting (received.worker _) room rfl
    · have received := a.takeRequest [t] rfl rfl (by simp)
      exact .ofCollecting (received.worker _) room rfl
  | draining r n =>
    rcases n with _ | n
    · exact Accounted.flushThen (.finish r) a (Nat.le_of_lt room)
    rcases queue with _ | ⟨x | t | t, rest⟩
    · exact Accounted.flushThen (.finish r) a (Nat.le_of_lt room)
    · exact Accounted.collect (.draining r n) a rfl room rfl
    · have received := a.takeRequest (Round.tickets { r with flushes := r.flushes ++ [t] }) rfl rfl
        (by grind [Round.tickets, Worker.tickets])
      exact .ofCollecting (received.worker (.draining _ n)) room rfl
    · have received := a.takeRequest (Round.tickets { r with shutdown := some t }) rfl rfl
        (by grind [Round.tickets, Worker.tickets])
      exact .ofCollecting (received.worker (.draining _ n)) room rfl

/-- What a waiting worker does at the end of a batch's time, or of the queue. -/
theorem Holds.waiting {h : History α} (i : h.Holds) (next : Resume) (hn : next.tickets = [])
    (hw : h.emitter.worker = .idle) : Holds { h with emitter := h.emitter.flushThen next } := by
  have a := i.accounted
  rw [inHand, hw] at a
  exact Accounted.flushThen next (by rw [hn]; exact a) (Nat.le_of_lt i.room)

theorem Holds.expire {h : History α} (i : h.Holds) :
    Holds { h with emitter := h.emitter.expire } := by
  unfold Emitter.expire
  split
  · next hw _ => exact i.waiting .idle rfl hw
  · exact i

theorem Holds.disconnect {h : History α} (i : h.Holds) :
    Holds { h with emitter := h.emitter.disconnect } := by
  unfold Emitter.disconnect
  split
  · next hw _ => exact i.waiting .stop rfl hw
  · exact i

/-- Of a list with one more element in the end, that element or an earlier one is in the middle. -/
theorem last_or_earlier {xs before later : List (Task α)} {x y : Task α}
    (h : xs ++ [x] = before ++ y :: later) :
    (before = xs ∧ y = x) ∨ ∃ later', xs = before ++ y :: later' := by
  rcases List.eq_nil_or_concat later with rfl | ⟨later', z, rfl⟩
  · obtain ⟨hb, hy⟩ := List.append_inj' h rfl
    exact .inl ⟨hb.symm, by simpa using hy.symm⟩
  · rw [List.concat_eq_append, ← List.cons_append, ← List.append_assoc] at h
    exact .inr ⟨later', (List.append_inj' h rfl).1⟩

theorem Holds.send {h : History α} (i : h.Holds) (x : α) : (h.send x).Holds := by
  obtain ⟨a, room, empty⟩ := i
  obtain ⟨received, hsplit, hitems⟩ := a.split
  have same : ticketsOf (h.emitter.queue ++ [.item x]) = ticketsOf h.emitter.queue := by simp
  refine ⟨⟨⟨received, ?_, hitems⟩, a.sizes, ?_, ?_, ?_, ?_⟩, room, empty⟩
  · simp [History.send, Emitter.put, hsplit]
  · exact same ▸ a.distinct
  · exact fun t ht => same ▸ a.apart t ht
  · exact fun t ht => a.given t (same ▸ ht)
  · intro before task later t hs ht hm
    rcases last_or_earlier hs with ⟨-, rfl⟩ | ⟨later', hs⟩
    · cases ht
    · exact a.answers before task later' t hs ht hm

theorem Holds.ask {h : History α} (i : h.Holds) {task : Nat → Task α}
    (htask : ∀ t, (task t).ticket? = some t) : (h.ask task).Holds := by
  obtain ⟨a, room, empty⟩ := i
  obtain ⟨received, hsplit, hitems⟩ := a.split
  have more : ticketsOf (h.emitter.queue ++ [task h.emitter.tickets]) =
      ticketsOf h.emitter.queue ++ [h.emitter.tickets] := by
    rw [ticketsOf_append, ticketsOf_request_cons (htask _)]
    rfl
  have new : ∀ t ∈ h.emitter.answered ++ h.emitter.worker.tickets ++ ticketsOf h.emitter.queue,
      t ≠ h.emitter.tickets := fun t ht => Nat.ne_of_lt (a.given t ht)
  refine ⟨⟨⟨received, ?_, hitems⟩, a.sizes, ?_, ?_, ?_, ?_⟩, room, empty⟩
  · simp [History.ask, Emitter.put, hsplit]
  · show (ticketsOf (h.emitter.queue ++ [task h.emitter.tickets])).Nodup
    rw [more]
    refine List.nodup_append.mpr ⟨a.distinct, by simp, fun t ht t' ht' => ?_⟩
    rw [List.mem_singleton.mp ht']
    exact new t (List.mem_append_right _ ht)
  · intro t ht
    show t ∉ ticketsOf (h.emitter.queue ++ [task h.emitter.tickets])
    rw [more, List.mem_append, List.mem_singleton]
    rintro (hm | rfl)
    · exact a.apart t ht hm
    · exact new _ (List.mem_append_left _ ht) rfl
  · intro t ht
    show t < h.emitter.tickets + 1
    change t ∈ _ ++ ticketsOf (h.emitter.queue ++ [task h.emitter.tickets]) at ht
    rw [more, ← List.append_assoc, List.mem_append, List.mem_singleton] at ht
    rcases ht with ht | rfl
    · exact Nat.lt_succ_of_lt (a.given t ht)
    · exact Nat.lt_succ_self _
  · intro before task' later t hs ht hm
    rcases last_or_earlier hs with ⟨-, rfl⟩ | ⟨later', hs⟩
    · obtain rfl : h.emitter.tickets = t := by simpa [htask] using ht
      exact absurd rfl (new _ (List.mem_append_left _ (List.mem_append_left _ hm)))
    · exact a.answers before task' later' t hs ht hm

/-- Every move keeps the invariant. -/
theorem Holds.move {h : History α} (i : h.Holds) (m : Move α) : (h.move m).Holds := by
  cases m with
  | item x =>
    simp only [History.move]
    split
    · exact i.send x
    · exact i
  | flush | shutdown =>
    simp only [History.move]
    split
    · exact i.ask fun _ => rfl
    · exact i
  | work panics => exact i.work panics
  | expire => exact i.expire
  | leave => exact ⟨⟨i.accounted.split, i.accounted.sizes, i.accounted.distinct,
      i.accounted.apart, i.accounted.given, i.accounted.answers⟩, i.room, i.empty⟩
  | disconnect =>
    simp only [History.move]
    split
    · exact i
    · exact i.disconnect

theorem holds_start (c : BatchConfig) : (start c : History α).Holds := by
  refine ⟨⟨⟨[], rfl, rfl⟩, ?_, List.nodup_nil, ?_, ?_, ?_⟩, c.size_pos, ?_⟩
  · intro b hb
    cases hb
  · intro t ht
    cases ht
  · intro t ht
    cases ht
  · intro before task later t hs
    simp [start] at hs
  · intro hc
    cases hc

/-! ### What the moves leave alone -/

/-- The parts of an emitter that neither its worker nor its queue touches. -/
structure Frame (e e' : Emitter α) : Prop where
  config : e'.config = e.config
  accepting : e'.accepting = e.accepting
  released : e'.released = e.released
  dropped : e'.dropped = e.dropped

theorem Frame.refl (e : Emitter α) : Frame e e := ⟨rfl, rfl, rfl, rfl⟩

theorem Frame.trans {e e' e'' : Emitter α} (h : Frame e e') (h' : Frame e' e'') : Frame e e'' :=
  ⟨h'.config.trans h.config, h'.accepting.trans h.accepting, h'.released.trans h.released,
    h'.dropped.trans h.dropped⟩

theorem frame_resume (e : Emitter α) (next : Resume) : Frame e (e.resume next) := by
  cases next <;> exact ⟨rfl, rfl, rfl, rfl⟩

theorem frame_flushThen (e : Emitter α) (next : Resume) : Frame e (e.flushThen next) := by
  unfold Emitter.flushThen
  split
  · exact frame_resume e next
  · exact ⟨rfl, rfl, rfl, rfl⟩

theorem frame_collect (e : Emitter α) (x : α) (next : Resume) : Frame e (e.collect x next) := by
  have more : Frame e { e with pending := e.pending ++ [x] } := ⟨rfl, rfl, rfl, rfl⟩
  unfold Emitter.collect
  dsimp only
  split
  · exact more.trans (frame_flushThen _ next)
  · exact more.trans (frame_resume _ next)

theorem frame_work (h : History α) (panics : Bool) : Frame h.emitter (h.work panics).emitter := by
  obtain ⟨⟨config, accepting, released, dropped, queue, pending, worker, tickets, answered⟩,
    attached, sent, calls⟩ := h
  cases worker with
  | unborn | exited => exact .refl _
  | calling batch next => exact frame_resume _ next
  | idle =>
    match queue with
    | [] | .flush _ :: _ | .shutdown _ :: _ => exact ⟨rfl, rfl, rfl, rfl⟩
    | .item x :: _ =>
      obtain ⟨config, accepting, released, dropped⟩ := frame_collect _ x .idle
      exact ⟨config, accepting, released, dropped⟩
  | draining r n =>
    match n, queue with
    | 0, _ | n + 1, [] => exact frame_flushThen _ (.finish r)
    | n + 1, .item x :: _ =>
      obtain ⟨config, accepting, released, dropped⟩ := frame_collect _ x (.draining r n)
      exact ⟨config, accepting, released, dropped⟩
    | n + 1, .flush _ :: _ | n + 1, .shutdown _ :: _ => exact ⟨rfl, rfl, rfl, rfl⟩

theorem frame_move (h : History α) (m : Move α) : Frame h.emitter (h.move m).emitter := by
  cases m with
  | item _ | flush | shutdown =>
    simp only [History.move]
    split <;> exact ⟨rfl, rfl, rfl, rfl⟩
  | work panics => exact frame_work h panics
  | leave => exact .refl _
  | expire =>
    simp only [History.move, Emitter.expire]
    split
    · exact frame_flushThen _ .idle
    · exact .refl _
  | disconnect =>
    simp only [History.move, Emitter.disconnect]
    split
    · exact .refl _
    · split
      · exact frame_flushThen _ .stop
      · exact .refl _

/-! ### After any moves -/

/-- The invariant and the configuration after any moves. -/
theorem holds_after (c : BatchConfig) (moves : List (Move α)) :
    (after c moves).Holds ∧ (after c moves).emitter.config = c := by
  suffices h : ∀ h : History α, h.Holds → h.emitter.config = c →
      (moves.foldl move h).Holds ∧ (moves.foldl move h).emitter.config = c from
    h (start c) (holds_start c) rfl
  induction moves with
  | nil => exact fun h i hc => ⟨i, hc⟩
  | cons m moves ih => exact fun h i hc => ih (h.move m) (i.move m) ((frame_move h m).config.trans hc)

/-- An emitter loses and repeats no item: after any moves, the batches handed on, the batch in the
making and the items of the queue are the items that were put into the queue, in their order. No
batch is empty or larger than its limit. When a request is answered, everything that was put into
the queue in front of it was taken before. A worker that has stopped leaves no batch in the
making. -/
theorem items_conserved (name : String) (size timeout : Nat) (policy : QueuePolicy)
    (moves : List (Move α)) :
    let h := after (.make name size timeout policy) moves
    h.handed.flatten ++ h.emitter.pending ++ items h.emitter.queue = items h.sent ∧
    (∀ b ∈ h.handed, b ≠ [] ∧ b.length ≤ max size 1) ∧
    (∀ before task later t, h.sent = before ++ task :: later → task.ticket? = some t →
      t ∈ h.emitter.answered → items before <+: h.taken.flatten) ∧
    (h.emitter.worker = .exited → h.emitter.pending = []) := by
  intro h
  obtain ⟨i, hc⟩ := holds_after (.make name size timeout policy) moves
  obtain ⟨received, hsplit, hitems⟩ := i.accounted.split
  refine ⟨?_, fun b hb => ?_, i.accounted.answers, fun hw => i.empty ?_⟩
  · calc
      h.handed.flatten ++ h.emitter.pending ++ items h.emitter.queue
          = items received ++ items h.emitter.queue := by rw [hitems, handed]
      _ = items (received ++ h.emitter.queue) := (items_append _ _).symm
      _ = items h.sent := by rw [hsplit]
  · have sizes := i.accounted.sizes b hb
    rw [hc] at sizes
    exact sizes
  · show Worker.collects h.emitter.worker = false
    rw [hw]
    rfl

/-- A request behind three items in an emitter of pairs, the first of which ends in a panic: when
it is answered, all three were taken. -/
theorem items_conserved_flush :
    let h := after (.make "logs" 2 0 .block)
      [.item 1, .item 2, .work false, .work false, .work true, .item 3, .flush, .work false,
        .work false, .work false, .work false, .work false]
    h.emitter.answered = [0] ∧ [1, 2, 3] <+: h.taken.flatten ∧
      h.calls = [⟨[1, 2], true⟩, ⟨[3], false⟩] :=
  ⟨by decide, (items_conserved "logs" 2 0 .block _).2.2.1 [.item 1, .item 2, .item 3] (.flush 0)
    [] 0 (by decide) rfl (by decide), by decide⟩

end Telemetry.Emitter.History
