import Telemetry.Proofs.Emitter.Progress
import Telemetry.Proofs.Emitter.Room

/-! Flushing as a barrier. Whoever is alone with an emitter and is told that it is flushed, or shut
down, knows that everything it accepted so far was handed on, in its order and each item once. An
emitter whose shutdown has given up is the exception: it takes nothing more, calls itself flushed, and
its worker may still have everything in front of it. -/

namespace Telemetry.Emitter

variable {α : Type}

/-- An emitter that has accepted these items and handed on these batches. -/
def Served (e : Emitter α) (accepted : List α) (batches : List (List α)) : Prop :=
  ∃ h : History α, h.Holds ∧ h.emitter = e ∧ items h.sent = accepted ∧ h.taken = batches

theorem served_new (config : BatchConfig) : Served (new config : Emitter α) [] [] := by
  refine ⟨⟨new config, true, [], []⟩, ?_, rfl, rfl, rfl⟩
  obtain ⟨accounted, room, empty⟩ :=
    (History.holds_start config : (History.start config : History α).Holds)
  exact ⟨accounted.worker .unborn, room, fun _ => rfl⟩

/-! ### The worker -/

/-- By itself the worker adds its batches to those taken, and no task to those sent. -/
theorem History.Holds.works {h : History α} {e : Emitter α} {batches : List (List α)}
    (i : h.Holds) (w : Works h.emitter batches e) :
    ∃ h' : History α, h'.Holds ∧ h'.emitter = e ∧ h'.sent = h.sent ∧
      h'.taken = h.taken ++ batches := by
  -- the history follows the worker, one move for each step
  generalize he : h.emitter = e₀ at w
  induction w generalizing h with
  | rest e => exact ⟨h, i, he, rfl, (List.append_nil _).symm⟩
  | @step e₀ e₁ e₂ batch batches s _ ih =>
    have moved := i.work false
    rw [← he] at s
    have worked : (h.work false).emitter = e₁ ∧ (h.work false).sent = h.sent ∧
        (h.work false).taken = h.taken ++ batch.toList := by
      unfold History.work
      rw [s]
      cases batch with
      | none => exact ⟨rfl, rfl, (List.append_nil _).symm⟩
      | some batch => exact ⟨rfl, rfl, List.map_append⟩
    obtain ⟨h', i', he', sent, taken⟩ := ih moved worked.1
    refine ⟨h', i', he', sent.trans worked.2.1, ?_⟩
    rw [taken, worked.2.2, List.append_assoc]
  | expire _ ih =>
    subst he
    obtain ⟨h', i', he', sent, taken⟩ :=
      ih (h := { h with emitter := h.emitter.expire }) i.expire rfl
    exact ⟨h', i', he', sent, taken⟩

namespace Served

variable {e e' : Emitter α} {accepted : List α} {batches more : List (List α)}

theorem works (s : Served e accepted batches) (w : Works e more e') :
    Served e' accepted (batches ++ more) := by
  obtain ⟨h, i, rfl, hs, ht⟩ := s
  obtain ⟨h', i', he, sent, taken⟩ := i.works w
  exact ⟨h', i', he, sent ▸ hs, ht ▸ taken⟩

theorem put (s : Served e accepted batches) (a : α) :
    Served (e.put (.item a)) (accepted ++ [a]) batches := by
  obtain ⟨h, i, rfl, hs, ht⟩ := s
  refine ⟨h.send a, i.send a, rfl, ?_, ht⟩
  show items (h.sent ++ [.item a]) = _
  rw [items_append, hs]
  rfl

/-- What the owner of an emitter keeps in it plays no part. -/
theorem owner (s : Served e accepted batches) (accepting released : Bool) (dropped : Nat) :
    Served { e with accepting, released, dropped } accepted batches := by
  obtain ⟨h, i, rfl, hs, ht⟩ := s
  exact ⟨{ h with emitter := { h.emitter with accepting, released, dropped } }, i.owner _ _ _,
    rfl, hs, ht⟩

theorem start (s : Served e accepted batches) : Served e.start accepted batches := by
  unfold Emitter.start
  split
  · next unborn =>
    split
    · exact s
    · obtain ⟨h, i, rfl, hs, ht⟩ := s
      have a := i.accounted
      rw [inHand, unborn] at a
      refine ⟨{ h with emitter := { h.emitter with worker := .idle } },
        ⟨a.worker .idle, i.room, fun still => ?_⟩, rfl, hs, ht⟩
      cases still
  · exact s

/-- What is handed on was accepted. -/
theorem handed_first (s : Served e accepted batches) : batches.flatten <+: accepted := by
  obtain ⟨h, i, rfl, rfl, rfl⟩ := s
  refine List.IsPrefix.trans ?_ i.handed_first
  rw [History.handed, List.flatten_append]
  exact List.prefix_append _ _

/-- When a request is answered, everything that was accepted before it is handed on. -/
theorem answered (s : Served e accepted batches) (task : Nat → Task α)
    (request : ∀ t, (task t).ticket? = some t) (w : Works (e.ask task) more e') :
    Served e' accepted (batches ++ more) ∧
      (e.tickets ∈ e'.answered → (batches ++ more).flatten = accepted) := by
  obtain ⟨h, i, rfl, rfl, rfl⟩ := s
  obtain ⟨h', i', rfl, sent, taken⟩ := (i.ask request).works w
  have sent : h'.sent = h.sent ++ [task h.emitter.tickets] := sent
  have accepted : items h'.sent = items h.sent := by
    rw [sent, items_append, items_request_cons (request _)]
    exact List.append_nil _
  have served : Served h'.emitter (items h.sent) (h.taken ++ more) :=
    ⟨h', i', rfl, accepted, taken⟩
  refine ⟨served, fun done => ?_⟩
  -- the items before the request are handed on, and there is none behind it
  have all := i'.accounted.answers h.sent _ [] _ sent (request _) done
  rw [show h'.taken = h.taken ++ more from taken] at all
  exact served.handed_first.eq_of_length_le all.length_le

theorem request (s : Served e accepted batches) (task : Nat → Task α)
    (request : ∀ t, (task t).ticket? = some t) (pace : Pace) :
    Served (e.request pace task).emitter accepted (batches ++ (e.request pace task).batches) ∧
      ((e.request pace task).result = .answered →
        (batches ++ (e.request pace task).batches).flatten = accepted) := by
  have outcome := requests pace task e
  generalize e.request pace task = r at outcome
  cases outcome with
  | unsent w => exact ⟨s.works w, nofun⟩
  | unanswered w w' =>
    rw [← List.append_assoc]
    exact ⟨((s.works w).answered task request w').1, nofun⟩
  | answered w w' done =>
    rw [← List.append_assoc]
    obtain ⟨served, all⟩ := (s.works w).answered task request w'
    exact ⟨served, fun _ => all done⟩

theorem enqueue (s : Served e accepted batches) (pace : Pace) (a : α) :
    Served (e.enqueue pace a).emitter
      (accepted ++ if (e.enqueue pace a).result.isAccepted then [a] else [])
      (batches ++ (e.enqueue pace a).batches) := by
  have outcome := enqueues pace a e
  generalize e.enqueue pace a = r at outcome
  cases outcome with
  | closed => simpa [Enqueued.isAccepted] using s
  | accepted _ w => simpa [Enqueued.isAccepted] using (s.start.works w).put a
  | gone _ w => simpa [Enqueued.isAccepted] using s.start.works w
  | full _ w => simpa [Enqueued.isAccepted] using (s.start.works w).owner _ _ _

/-- A flush that succeeds while items are taken has handed on everything accepted so far. -/
theorem flush (s : Served e accepted batches) (pace : Pace) :
    Served (e.flush pace).emitter accepted (batches ++ (e.flush pace).batches) ∧
      (e.accepting = true → (e.flush pace).result = true →
        (batches ++ (e.flush pace).batches).flatten = accepted) := by
  cases accepting : e.accepting with
  | false =>
    rw [flush_closed accepting, List.append_nil]
    exact ⟨s, nofun⟩
  | true =>
    obtain ⟨served, all⟩ := s.start.request .flush (fun _ => rfl) pace
    rw [flush_accepting accepting]
    exact ⟨served, fun _ done => all (by simpa using done)⟩

theorem close (s : Served e accepted batches) : Served e.close accepted batches :=
  s.owner false true e.dropped

/-- A shutdown that succeeds has handed on everything that was accepted. -/
theorem shutdown (s : Served e accepted batches) (accepting : e.accepting = true)
    (held : e.released = false) (fresh : e.worker = .unborn → e.queue = []) (pace : Pace) :
    Served (e.shutdown pace).emitter accepted (batches ++ (e.shutdown pace).batches) ∧
      ((e.shutdown pace).result.isDone = true →
        (batches ++ (e.shutdown pace).batches).flatten = accepted) := by
  by_cases unborn : e.worker = .unborn
  · -- without a worker nothing was ever sent, and so everything was handed on
    rw [shutdown_unborn accepting held unborn (fresh unborn), List.append_nil]
    obtain ⟨h, i, rfl, rfl, rfl⟩ := s
    obtain ⟨received, hsplit, hitems⟩ := i.accounted.split
    have empty : h.emitter.pending = [] := i.empty (by rw [unborn]; rfl)
    have hand : h.emitter.inHand = [] := by rw [inHand, unborn]
    have closed := i.owner false true h.emitter.dropped
    have a := closed.accounted.worker .exited
    refine ⟨⟨⟨{ h.emitter.close with worker := .exited }, h.attached, h.sent, h.calls⟩,
      ⟨?_, closed.room, fun _ => empty⟩, rfl, rfl, rfl⟩, fun _ => ?_⟩
    · have none : inHand { h.emitter with accepting := false, released := true } = [] := hand
      rw [none] at a
      exact a.mono fun t ht => by cases ht
    · rw [hsplit, fresh unborn, List.append_nil, hitems, hand, empty, List.append_nil,
        List.append_nil]
  · rw [shutdown_born accepting held unborn]
    obtain ⟨served, all⟩ := s.close.request .shutdown (fun _ => rfl) pace
    exact ⟨served, fun done => all (by simpa [Stopped.isDone] using done)⟩

end Served

/-! ### At work -/

/-- An emitter at work that has accepted these items and handed on these batches. -/
structure Live (e : Emitter α) (accepted : List α) (batches : List (List α)) : Prop where
  serving : e.Serving
  served : Served e accepted batches

theorem live_new (config : BatchConfig) : Live (new config : Emitter α).start [] [] :=
  ⟨serving_new config, (served_new config).start⟩

namespace Live

variable {e : Emitter α} {accepted : List α} {batches : List (List α)}

theorem turn (l : Live e accepted batches) (t : Turn) :
    Live (e.turn t).2 accepted (batches ++ (e.turn t).1) :=
  ⟨l.serving.works (works_turn t e), l.served.works (works_turn t e)⟩

theorem enqueue (l : Live e accepted batches) (pace : Pace) (a : α) :
    Live (e.enqueue pace a).emitter
      (accepted ++ if (e.enqueue pace a).result.isAccepted then [a] else [])
      (batches ++ (e.enqueue pace a).batches) :=
  ⟨(l.serving.enqueue pace a).1, l.served.enqueue pace a⟩

theorem flush (l : Live e accepted batches) (pace : Pace) :
    Live (e.flush pace).emitter accepted (batches ++ (e.flush pace).batches) ∧
      ((e.flush pace).result = true →
        (batches ++ (e.flush pace).batches).flatten = accepted) := by
  obtain ⟨served, all⟩ := l.served.flush pace
  exact ⟨⟨l.serving.flush pace, served⟩, all l.serving.accepting⟩

theorem shutdown (l : Live e accepted batches) (pace : Pace) :
    (e.shutdown pace).result.isDone = true →
      (batches ++ (e.shutdown pace).batches).flatten = accepted :=
  (l.served.shutdown l.serving.accepting l.serving.held
    (fun unborn => absurd unborn l.serving.born) pace).2

end Live

/-! ### One caller -/

/-- An emitter as its only caller knows it. -/
structure Owned (α : Type) where
  emitter : Emitter α
  accepted : List α
  batches : List (List α)
  /-- Whether a shutdown has given up. -/
  gaveUp : Bool

/-- What the caller does, or lets the worker do. -/
inductive Operation (α : Type) where
  | start
  | work (t : Turn)
  | enqueue (pace : Pace) (a : α)
  | flush (pace : Pace)
  | shutdown (pace : Pace)

theorem start_born {e : Emitter α} (held : e.released = false) : e.start.worker ≠ .unborn := by
  unfold start
  split
  · simp [held]
  · assumption

theorem Works.born {e e' : Emitter α} {batches : List (List α)} (w : Works e batches e')
    (born : e.worker ≠ .unborn) : e'.worker ≠ .unborn := by
  refine w.keeps (P := fun e => e.worker ≠ .unborn) (fun _ _ _ _ s => (step?_cases s).1) ?_ born
  intro e born
  rw [Emitter.expire]
  split
  · exact (stays_flushThen e .idle).born
  · exact born

theorem Requests.born {task : Nat → Task α} {e : Emitter α} {r : Outcome α Requested}
    (h : Requests task e r) (born : e.worker ≠ .unborn) : r.emitter.worker ≠ .unborn := by
  cases h with
  | unsent w => exact w.born born
  | unanswered w w' | answered w w' _ => exact w'.born (w.born born)

/-- A worker that was never needed has done nothing. -/
theorem Works.eq_of_unborn {e e' : Emitter α} {batches : List (List α)} (w : Works e batches e')
    (unborn : e.worker = .unborn) : e' = e := by
  induction w with
  | rest e => rfl
  | step s =>
    rw [step?, unborn] at s
    cases s
  | @expire e _ _ _ ih =>
    have same : e.expire = e := by rw [Emitter.expire, unborn]
    rw [same] at ih
    exact ih unborn

namespace Owned

def new (config : BatchConfig) : Owned α := ⟨.new config, [], [], false⟩

/-- What an outcome adds to what was known. -/
def learn {β : Type} (c : Owned α) (r : Outcome α β) : Owned α :=
  { c with emitter := r.emitter, batches := c.batches ++ r.batches }

def run (c : Owned α) : Operation α → Owned α
  | .start => { c with emitter := c.emitter.start }
  | .work t => c.learn ⟨(), (c.emitter.turn t).1, (c.emitter.turn t).2⟩
  | .enqueue pace a =>
    let r := c.emitter.enqueue pace a
    { c.learn r with accepted := c.accepted ++ if r.result.isAccepted then [a] else [] }
  | .flush pace => c.learn (c.emitter.flush pace)
  | .shutdown pace =>
    let r := c.emitter.shutdown pace
    { c.learn r with gaveUp := c.gaveUp || !r.result.isDone }

def after (config : BatchConfig) (os : List (Operation α)) : Owned α := os.foldl run (new config)

/-- What holds of an emitter with one caller. -/
structure Holds (c : Owned α) : Prop where
  served : Served c.emitter c.accepted c.batches
  fresh : c.emitter.worker = .unborn → c.emitter.queue = []
  held : c.emitter.accepting = true → c.emitter.released = false
  closed : c.emitter.accepting = false → c.gaveUp = false → c.batches.flatten = c.accepted

theorem holds_new (config : BatchConfig) : (new config : Owned α).Holds :=
  ⟨served_new config, fun _ => rfl, fun _ => rfl, nofun⟩

/-- An operation that goes on taking items. -/
theorem Holds.goOn {c : Owned α} (i : c.Holds) (accepting : c.emitter.accepting = true)
    {e : Emitter α} (frame : e.accepting = c.emitter.accepting ∧ e.released = c.emitter.released)
    (born : e.worker ≠ .unborn) {accepted : List α} {batches : List (List α)}
    (served : Served e accepted batches) : Holds ⟨e, accepted, batches, c.gaveUp⟩ := by
  refine ⟨served, fun unborn => absurd unborn born, fun _ => ?_, fun closed => ?_⟩
  · exact frame.2.trans (i.held accepting)
  · rw [show e.accepting = true from frame.1.trans accepting] at closed
    cases closed

theorem Holds.start {c : Owned α} (i : c.Holds) : (c.run .start).Holds := by
  have frame := frame_start c.emitter
  refine ⟨i.served.start, ?_, fun accepting => ?_, fun closed => ?_⟩
  · have fresh := i.fresh
    show c.emitter.start.worker = .unborn → c.emitter.start.queue = []
    unfold Emitter.start
    split
    · split
      · exact fresh
      · exact nofun
    · exact fresh
  · exact frame.released.trans (i.held (frame.accepting.symm.trans accepting))
  · exact i.closed (frame.accepting.symm.trans closed)

theorem Holds.work {c : Owned α} (i : c.Holds) (t : Turn) : (c.run (.work t)).Holds := by
  have w := works_turn t c.emitter
  have served := i.served.works w
  refine ⟨served, fun unborn => ?_, fun accepting => ?_, fun closed kept => ?_⟩
  · by_cases before : c.emitter.worker = .unborn
    · show (c.emitter.turn t).2.queue = []
      rw [w.eq_of_unborn before]
      exact i.fresh before
    · exact absurd unborn (w.born before)
  · exact w.frame.released.trans (i.held (w.frame.accepting.symm.trans accepting))
  · -- there is nothing left to hand on
    have all := i.closed (w.frame.accepting.symm.trans closed) kept
    refine served.handed_first.eq_of_length_le ?_
    rw [← all, List.flatten_append, List.length_append]
    exact Nat.le_add_right _ _

theorem Holds.enqueue {c : Owned α} (i : c.Holds) (pace : Pace) (a : α) :
    (c.run (.enqueue pace a)).Holds := by
  cases accepting : c.emitter.accepting with
  | false =>
    have same : c.run (.enqueue pace a) = c := by
      simp [run, learn, Emitter.enqueue, accepting, Enqueued.isAccepted]
    rw [same]
    exact i
  | true =>
    have served := i.served.enqueue pace a
    have born := start_born (i.held accepting)
    have start := frame_start c.emitter
    have outcome := enqueues pace a c.emitter
    simp only [run, learn]
    generalize c.emitter.enqueue pace a = r at served outcome
    cases outcome with
    | closed closed =>
      rw [accepting] at closed
      cases closed
    | accepted _ w | gone _ w _ | full _ w =>
      have frame := start.trans w.frame
      refine i.goOn accepting ?_ ?_ served
      · exact ⟨frame.accepting, frame.released⟩
      · exact w.born born

theorem Holds.flush {c : Owned α} (i : c.Holds) (pace : Pace) : (c.run (.flush pace)).Holds := by
  cases accepting : c.emitter.accepting with
  | false =>
    have same : c.run (.flush pace) = c := by simp [run, learn, flush_closed accepting]
    rw [same]
    exact i
  | true =>
    have served := (i.served.flush pace).1
    have born := start_born (i.held accepting)
    have start := frame_start c.emitter
    have outcome := requests pace .flush c.emitter.start
    rw [flush_accepting accepting] at served
    simp only [run, learn, flush_accepting accepting]
    refine i.goOn accepting ?_ (outcome.born born) served
    exact ⟨outcome.frame.1.trans start.accepting, outcome.frame.2.trans start.released⟩

theorem Holds.shutdown {c : Owned α} (i : c.Holds) (pace : Pace) :
    (c.run (.shutdown pace)).Holds := by
  cases accepting : c.emitter.accepting with
  | false =>
    have same : c.run (.shutdown pace) = c := by
      simp [run, learn, shutdown_closed accepting, Stopped.isDone]
    rw [same]
    exact i
  | true =>
    have held := i.held accepting
    obtain ⟨served, all⟩ := i.served.shutdown accepting held i.fresh pace
    have born : (c.emitter.shutdown pace).emitter.worker ≠ .unborn := by
      by_cases unborn : c.emitter.worker = .unborn
      · rw [shutdown_unborn accepting held unborn (i.fresh unborn)]
        exact nofun
      · rw [shutdown_born accepting held unborn]
        exact (requests pace .shutdown c.emitter.close).born unborn
    have closed := accepting_shutdown pace c.emitter
    refine ⟨served, fun unborn => absurd unborn born, fun open' => ?_, fun _ kept => all ?_⟩
    · rw [show (c.emitter.shutdown pace).emitter.accepting = true from open'] at closed
      cases closed
    · have kept : (c.gaveUp || !(c.emitter.shutdown pace).result.isDone) = false := kept
      simpa using (Bool.or_eq_false_iff.mp kept).2

theorem Holds.run {c : Owned α} (i : c.Holds) (o : Operation α) : (c.run o).Holds := by
  cases o with
  | start => exact i.start
  | work t => exact i.work t
  | enqueue pace a => exact i.enqueue pace a
  | flush pace => exact i.flush pace
  | shutdown pace => exact i.shutdown pace

theorem holds_after (config : BatchConfig) (os : List (Operation α)) :
    (after config os : Owned α).Holds :=
  List.foldlRecOn os run (holds_new config) fun _ i o _ => i.run o

/-- When a flush succeeds and no shutdown before it has given up, everything that was accepted is
handed on, in its order and each item once. -/
theorem flush_handed_on (config : BatchConfig) (os : List (Operation α)) (pace : Pace)
    (kept : (after config os : Owned α).gaveUp = false)
    (done : ((after config os : Owned α).emitter.flush pace).result = true) :
    let c := after config os
    (c.batches ++ (c.emitter.flush pace).batches).flatten = c.accepted := by
  intro c
  have i := holds_after config os
  cases accepting : c.emitter.accepting with
  | true => exact (i.served.flush pace).2 accepting done
  | false =>
    rw [flush_closed accepting, List.append_nil]
    exact i.closed accepting kept

/-- Two items of which the first flush, without time for an answer, hands on nothing, and the second
one everything. -/
theorem flush_handed_on_late :
    let c := after (.make "logs" 10 0 .block)
      [.enqueue (fun _ => ⟨0, false, false⟩) 1, .enqueue (fun _ => ⟨1, false, false⟩) 2,
        .flush fun _ => ⟨1, false, false⟩]
    c.gaveUp = false ∧ c.batches = [] ∧
      (c.emitter.flush fun _ => ⟨9, false, false⟩).result = true ∧
      (c.batches ++ (c.emitter.flush fun _ => ⟨9, false, false⟩).batches).flatten = c.accepted ∧
      c.accepted = [1, 2] :=
  ⟨by decide, by decide, by decide,
    flush_handed_on (.make "logs" 10 0 .block)
      [.enqueue (fun _ => ⟨0, false, false⟩) 1, .enqueue (fun _ => ⟨1, false, false⟩) 2,
        .flush fun _ => ⟨1, false, false⟩] (fun _ => ⟨9, false, false⟩) (by decide) (by decide),
    by decide⟩

/-- After a shutdown has given up, a flush succeeds although nothing is handed on. -/
theorem flush_after_giving_up :
    let c := after (.make "logs" 10 0 .block)
      [.enqueue (fun _ => ⟨0, false, false⟩) 1, .shutdown fun _ => ⟨0, true, false⟩]
    let r := c.emitter.flush fun _ => ⟨0, true, false⟩
    c.accepted = [1] ∧ r.result = true ∧ c.batches ++ r.batches = [] := by
  decide

end Owned

end Telemetry.Emitter
