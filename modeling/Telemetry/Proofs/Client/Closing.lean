import Telemetry.Proofs.Client.Barrier

/-! Closing a client. The emitters are shut down while the transport still gets their batches, and
only then does the client let go of the transport. From then on nothing that is done with the client
hands anything over. -/

namespace Telemetry.Client

open Transport (Audit)

variable {now : Instant}

/-! ### What was handed over -/

/-- What a client has handed to its transport. -/
def handed (c : Client) : List Envelope := (c.transport.map Transport.offered).getD []

theorem send_handed (now : Instant) (pace : Emitter.Pace) (e : Envelope) (c : Client) :
    (c.send now pace e).client.handed = c.handed ++ (if c.current?.isSome then [e] else []) ∧
      (c.send now pace e).client.current?.isSome = c.current?.isSome := by
  unfold send
  cases current : c.current? with
  | none => exact ⟨(List.append_nil _).symm, by rw [current]⟩
  | some p =>
    have ⟨attached, transport⟩ : c.attached = true ∧ c.transport = some p := by
      simpa [current?] using current
    have offered := Transport.offered_send now pace e p
    simp [handed, current?, attached, transport, offered]

theorem handOn_handed (now : Instant) (pace : Emitter.Pace) (is : List Item) (c : Client) :
    (c.handOn now pace is).handed =
        c.handed ++ (if c.current?.isSome then is.map Envelope.ofItem else []) ∧
      (c.handOn now pace is).current?.isSome = c.current?.isSome := by
  induction is generalizing c pace with
  | nil => simp [handOn]
  | cons i is ih =>
    obtain ⟨sent, still⟩ := send_handed now (pace.sub 0) (.ofItem i) c
    obtain ⟨rest, still'⟩ := ih (pace.sub 1) (c.send now (pace.sub 0) (.ofItem i)).client
    rw [handOn, rest, sent, still', still]
    cases c.current?.isSome <;> simp

theorem turn_handed (now : Instant) (t : Emitter.Turn) (c : Client) :
    handed { c with transport := c.transport.map (Transport.turn now t) } = c.handed ∧
      (current? { c with transport := c.transport.map (Transport.turn now t) }).isSome =
        c.current?.isSome := by
  unfold handed current?
  cases c.transport with
  | none => exact ⟨rfl, rfl⟩
  | some p => exact ⟨Transport.offered_turn now t p, by cases c.attached <;> rfl⟩

/-! ### Without a transport -/

theorem send_gone {c : Client} (gone : c.current? = none) (pace : Emitter.Pace) (e : Envelope) :
    (c.send now pace e).client = c := by
  rw [send, gone]

theorem handOn_gone {c : Client} (gone : c.current? = none) (pace : Emitter.Pace)
    (is : List Item) : c.handOn now pace is = c := by
  induction is generalizing pace with
  | nil => rfl
  | cons i is ih => rw [handOn, send_gone gone, ih]

/-- The workers go on, but hand over nothing. -/
theorem turn_gone {c : Client} (gone : c.current? = none) (now : Instant) (pace : Emitter.Pace) :
    (c.turn now pace).current? = none ∧ (c.turn now pace).handed = c.handed := by
  let c₁ : Client := { c with logs := c.logs.map fun e => (Part.turn (pace.sub 0).turn e).emitter }
  let c₂ : Client :=
    { c₁ with metrics := c₁.metrics.map fun e => (Part.turn (pace.sub 2).turn e).emitter }
  have logs : c.passLogs now (pace.sub 1) (.turn (pace.sub 0).turn) = c₁ :=
    handOn_gone (c := c₁) gone _ _
  have metrics : c₁.passMetrics now (pace.sub 3) (.turn (pace.sub 2).turn) = c₂ :=
    handOn_gone (c := c₂) gone _ _
  have turned : c.turn now pace = (Operation.work now pace).last c₂ := by
    rw [← metrics, ← logs]
    exact (Operation.work now pace).run_eq c
  obtain ⟨handed, still⟩ := turn_handed now (pace.sub 4).turn c₂
  rw [turned]
  refine ⟨?_, handed⟩
  rw [← Option.isNone_iff_eq_none, ← Option.not_isSome]
  exact (congrArg not still).trans (by rw [show c₂.current? = none from gone]; rfl)

/-! ### Nothing more -/

/-- A client that has let go of its transport and takes nothing more. -/
structure Shut (c : Client) : Prop where
  gone : c.current? = none
  logs : ∀ e, c.logs = some e → e.accepting = false
  metrics : ∀ e, c.metrics = some e → e.accepting = false

/-- A part that leaves an emitter closed. -/
def Part.StaysClosed {α : Type} (part : Part α) : Prop :=
  ∀ e : Emitter α, e.accepting = false → (part e).emitter.accepting = false

theorem Part.staysClosed_rest {α : Type} : (rest : Part α).StaysClosed := fun _ closed => closed

theorem Part.staysClosed_turn {α : Type} (t : Emitter.Turn) : (turn t : Part α).StaysClosed :=
  fun e closed => (Emitter.works_turn t e).frame.accepting.trans closed

theorem Part.staysClosed_enqueue {α : Type} (pace : Emitter.Pace) (a : α) :
    (enqueue pace a).StaysClosed := fun e closed => by
  simpa [enqueue, Emitter.enqueue_closed closed] using closed

theorem Part.staysClosed_flush {α : Type} (pace : Emitter.Pace) :
    (flush pace : Part α).StaysClosed := fun e closed => by
  simpa [flush, Emitter.flush_closed closed] using closed

theorem Operation.logs_staysClosed (c : Client) (o : Operation) : (o.logs c).StaysClosed :=
  logs_part Part.staysClosed_rest Part.staysClosed_turn Part.staysClosed_enqueue
    Part.staysClosed_flush c o

theorem Operation.metrics_staysClosed (c : Client) (o : Operation) :
    (o.metrics c).StaysClosed :=
  metrics_part Part.staysClosed_rest Part.staysClosed_turn Part.staysClosed_enqueue
    Part.staysClosed_flush c o

namespace Shut

variable {c : Client}

theorem passLogs (s : c.Shut) (now : Instant) (pace : Emitter.Pace) {part : Part Log}
    (stays : part.StaysClosed) :
    (c.passLogs now pace part).Shut ∧ (c.passLogs now pace part).transport = c.transport := by
  have shut : Shut { c with logs := c.logs.map fun e => (part e).emitter } := by
    refine ⟨s.gone, fun e some => ?_, s.metrics⟩
    obtain ⟨e, before, rfl⟩ := Option.map_eq_some_iff.mp some
    exact stays e (s.logs e before)
  rw [Client.passLogs, handOn_gone shut.gone]
  exact ⟨shut, rfl⟩

theorem passMetrics (s : c.Shut) (now : Instant) (pace : Emitter.Pace) {part : Part Metric}
    (stays : part.StaysClosed) :
    (c.passMetrics now pace part).Shut ∧
      (c.passMetrics now pace part).transport = c.transport := by
  have shut : Shut { c with metrics := c.metrics.map fun e => (part e).emitter } := by
    refine ⟨s.gone, s.logs, fun e some => ?_⟩
    obtain ⟨e, before, rfl⟩ := Option.map_eq_some_iff.mp some
    exact stays e (s.metrics e before)
  rw [Client.passMetrics, handOn_gone shut.gone]
  exact ⟨shut, rfl⟩

theorem turn (s : c.Shut) (t : Emitter.Turn) :
    Shut { c with transport := c.transport.map (Transport.turn now t) } := by
  refine ⟨?_, s.logs, s.metrics⟩
  rw [← Option.isNone_iff_eq_none, ← Option.not_isSome, (turn_handed _ t c).2, s.gone]
  rfl

theorem flushTransport (s : c.Shut) (pace : Emitter.Pace) :
    (c.flushTransport now pace).2 = c := by
  rw [Client.flushTransport, s.gone]

theorem last (s : c.Shut) (o : Operation) : (o.last c).Shut ∧ (o.last c).handed = c.handed := by
  cases o with
  | work now pace => exact ⟨s.turn _, (turn_handed _ _ c).1⟩
  | event now pace e =>
    rw [Operation.last, send_gone s.gone]
    exact ⟨s, rfl⟩
  | log | metric => exact ⟨s, rfl⟩
  | flush now pace =>
    rw [Operation.last, s.flushTransport]
    exact ⟨s, rfl⟩

/-- Whatever is done with a client that is shut hands nothing over and leaves it shut. -/
theorem run (s : c.Shut) (o : Operation) : (o.run c).Shut ∧ (o.run c).handed = c.handed := by
  obtain ⟨first, same⟩ := s.passLogs o.time o.logPace (o.logs_staysClosed c)
  obtain ⟨second, same'⟩ :=
    first.passMetrics o.time o.metricPace (o.metrics_staysClosed c)
  obtain ⟨third, handed⟩ := second.last o
  rw [o.run_eq]
  refine ⟨third, handed.trans ?_⟩
  rw [Client.handed, same', same]
  rfl

/-- There is nothing left to close. -/
theorem close (s : c.Shut) (pace : Emitter.Pace) :
    (c.close now pace).client = c ∧ (c.close now pace).result = true := by
  have logs : (c.closeLogs now (pace.sub 0)).1 = true ∧
      (c.closeLogs now (pace.sub 0)).2.2 = c := by
    unfold closeLogs
    split
    · exact ⟨rfl, rfl⟩
    · next e some =>
      rw [Emitter.shutdown_closed (s.logs e some)]
      refine ⟨rfl, ?_⟩
      show { c with logs := Option.some e } = c
      rw [← some]
  have metrics : (c.closeMetrics now (pace.sub 1)).1 = true ∧
      (c.closeMetrics now (pace.sub 1)).2.2 = c := by
    unfold closeMetrics
    split
    · exact ⟨rfl, rfl⟩
    · next e some =>
      rw [Emitter.shutdown_closed (s.metrics e some)]
      refine ⟨rfl, ?_⟩
      show { c with metrics := Option.some e } = c
      rw [← some]
  have transport : c.closeTransport now (pace.sub 2) = (true, [], c) := by
    rw [closeTransport, s.gone]
  unfold Client.close
  simp only [logs, metrics, transport, Bool.and_self, and_self]

end Shut

/-! ### Closing -/

def Part.shutdown {α : Type} (pace : Emitter.Pace) : Part α := fun e =>
  let r := e.shutdown pace
  ⟨[], r.batches, r.emitter⟩

theorem closeLogs_client (pace : Emitter.Pace) (c : Client) :
    (c.closeLogs now pace).2.2 = c.passLogs now (pace.sub 1) (.shutdown (pace.sub 0)) := by
  unfold closeLogs
  split
  · next none => rw [passLogs_none none]
  · next some => rw [passLogs_some some]; rfl

theorem closeMetrics_client (pace : Emitter.Pace) (c : Client) :
    (c.closeMetrics now pace).2.2 = c.passMetrics now (pace.sub 1) (.shutdown (pace.sub 0)) := by
  unfold closeMetrics
  split
  · next none => rw [passMetrics_none none]
  · next some => rw [passMetrics_some some]; rfl

/-- The client with its emitters shut down, before it lets go of its transport. -/
def drained (now : Instant) (pace : Emitter.Pace) (c : Client) : Client :=
  (c.passLogs now ((pace.sub 0).sub 1) (.shutdown ((pace.sub 0).sub 0))).passMetrics now
    ((pace.sub 1).sub 1) (.shutdown ((pace.sub 1).sub 0))

theorem close_client (pace : Emitter.Pace) (c : Client) :
    (c.close now pace).client = ((c.drained now pace).closeTransport now (pace.sub 2)).2.2 := by
  rw [drained, ← closeLogs_client, ← closeMetrics_client]
  rfl

/-- Whatever closing a client comes to, it is shut after that. -/
theorem shut_close (now : Instant) (pace : Emitter.Pace) (c : Client) :
    (c.close now pace).client.Shut := by
  obtain ⟨t, first⟩ := exists_passLogs now ((pace.sub 0).sub 1)
    (.shutdown ((pace.sub 0).sub 0)) c
  obtain ⟨t', second⟩ := exists_passMetrics now ((pace.sub 1).sub 1)
    (.shutdown ((pace.sub 1).sub 0)) (c.passLogs now _ _)
  rw [first] at second
  have logs : ∀ e, (c.drained now pace).logs = some e → e.accepting = false := by
    intro e some
    rw [drained, first, second] at some
    obtain ⟨e, -, rfl⟩ := Option.map_eq_some_iff.mp some
    exact Emitter.accepting_shutdown _ e
  have metrics : ∀ e, (c.drained now pace).metrics = some e → e.accepting = false := by
    intro e some
    rw [drained, first, second] at some
    obtain ⟨e, -, rfl⟩ := Option.map_eq_some_iff.mp some
    exact Emitter.accepting_shutdown _ e
  rw [close_client]
  unfold closeTransport
  split
  · next gone => exact ⟨gone, logs, metrics⟩
  · exact ⟨rfl, logs, metrics⟩

theorem Channel.drained {α : Type} {e : Option (Emitter α)} {accepted : List α}
    {batches : List (List α)} (h : Channel e accepted batches) (pace : Emitter.Pace)
    (done : ∀ em, e = some em → (em.shutdown pace).result.isDone = true) :
    (batches ++ (Part.shutdown pace).batches e).flatten = accepted := by
  cases h with
  | absent => rfl
  | present live => exact live.shutdown pace (done _ rfl)

/-- A client that is closed in time has handed everything to its transport before it lets go of it.
-/
theorem Holds.close {c : Client} {ls : List Log} {ms : List Metric} {x : Audit}
    (h : c.Holds ls ms x) {pace : Emitter.Pace} (done : (c.close now pace).result = true) :
    ∃ p : Transport, (c.close now pace).client.transport = some (p.shutdown now (pace.sub 2)).2.2 ∧
      (batchesIn Item.logs? p.offered).flatten = ls ∧
      (batchesIn Item.metrics? p.offered).flatten = ms := by
  have result : (c.close now pace).result =
      ((c.closeLogs now (pace.sub 0)).1 &&
        ((c.closeLogs now (pace.sub 0)).2.2.closeMetrics now (pace.sub 1)).1 &&
        (((c.closeLogs now (pace.sub 0)).2.2.closeMetrics now (pace.sub 1)).2.2.closeTransport now
          (pace.sub 2)).1) := rfl
  rw [result, Bool.and_eq_true, Bool.and_eq_true] at done
  obtain ⟨⟨logs, metrics⟩, -⟩ := done
  rw [closeLogs_client] at metrics
  have logs := h.logs.drained ((pace.sub 0).sub 0) fun e some => by
    simpa [closeLogs, some] using logs
  have metrics := h.metrics.drained ((pace.sub 1).sub 0) fun e some => by
    rw [closeMetrics, metrics_passLogs, some] at metrics
    exact metrics
  have attached := (h.attached.passLogs now ((pace.sub 0).sub 1)
    (.shutdown ((pace.sub 0).sub 0))).passMetrics now ((pace.sub 1).sub 1)
    (.shutdown ((pace.sub 1).sub 0))
  rw [metrics_passLogs] at attached
  have batches := logs_offered now ((pace.sub 0).sub 1) ((pace.sub 1).sub 1) x
    ((Part.shutdown ((pace.sub 0).sub 0)).batches c.logs)
    ((Part.shutdown ((pace.sub 1).sub 0)).batches c.metrics)
  refine ⟨_, ?_, (congrArg List.flatten batches.1).trans logs,
    (congrArg List.flatten batches.2).trans metrics⟩
  rw [close_client, drained, closeTransport, attached.current]

end Telemetry.Client
