import Telemetry.Proofs.Emitter.Rest
import Telemetry.Proofs.Transport.Ledger
import Telemetry.Proofs.Transport.Order

/-! A transport with a worker that is flushed after every envelope does what one without a worker
does. Between flushes that succeed its worker rests, so that an envelope finds the queue empty and is
delivered alone, within its own flush; and what the limits leave of it when it is handed over they
leave again when it is delivered. -/

namespace Telemetry

/-! ### Limits -/

/-- An envelope without its limited items is delivered like the whole of it. -/
theorem Courier.deliver_kept {now : Instant} {e kept : Envelope} {c : Courier}
    (h : c.limits.filter now e = some kept) : c.deliver now kept = c.deliver now e := by
  have again : c.limits.filter now kept = some kept := Envelope.filter_kept h
  simp only [deliver, h, again]

theorem Courier.deliver_limited {now : Instant} {e : Envelope} {c : Courier}
    (h : c.limits.filter now e = none) : c.deliver now e = (.skipped, c) := by
  simp only [deliver, h]

namespace Transport

/-! ### Batches of one -/

theorem deliverBatches_of_flatten_nil {now : Instant} {batches : List (List Envelope)}
    (h : batches.flatten = []) (c : Courier) : deliverBatches now batches c = c := by
  induction batches with
  | nil => rfl
  | cons b bs ih =>
    obtain ⟨rfl, rest⟩ := List.append_eq_nil_iff.mp (List.flatten_cons ▸ h)
    exact ih rest

/-- However it is put into batches, one envelope is delivered by itself. -/
theorem deliverBatches_of_flatten_singleton {now : Instant} {batches : List (List Envelope)}
    {e : Envelope} (h : batches.flatten = [e]) (c : Courier) :
    deliverBatches now batches c = (c.deliver now e).2 := by
  induction batches with
  | nil => cases h
  | cons b bs ih =>
    rw [List.flatten_cons, List.append_eq_singleton_iff] at h
    rcases h with ⟨rfl, rest⟩ | ⟨rfl, rest⟩
    · exact ih rest
    · have alone : c.deliverAll now [e] = (c.deliver now e).2 := by
        rw [Courier.deliverAll_cons]
        exact ite_self _
      exact (deliverBatches_of_flatten_nil rest _).trans alone

theorem deliverBatches_left {now : Instant} {batches : List (List Envelope)} {e : Envelope}
    {c : Courier} (h : batches.flatten = (c.limits.filter now e).toList) :
    deliverBatches now batches c = (c.deliver now e).2 := by
  cases left : c.limits.filter now e with
  | none =>
    rw [left] at h
    rw [deliverBatches_of_flatten_nil h, Courier.deliver_limited left]
  | some kept =>
    rw [left] at h
    rw [deliverBatches_of_flatten_singleton h, Courier.deliver_kept left]

/-! ### Steps -/

/-- An envelope that is handed over and flushed for, all at one time. -/
structure Parcel where
  now : Instant
  envelope : Envelope
  /-- What the worker does before, at times of its own. -/
  before : List (Instant × Emitter.Turn)
  /-- How far it gets while the envelope is handed over. -/
  sending : Emitter.Pace
  /-- How far it gets during the flush. -/
  flushing : Emitter.Pace

def handOver (x : Parcel) (p : Transport) : Transport :=
  ((x.before.foldl (fun p w => p.turn w.1 w.2) p).send x.now x.sending x.envelope).transport

def handOverAndFlush (x : Parcel) (p : Transport) : Bool × Transport :=
  (p.handOver x).flush x.now x.flushing

/-- A transport without a worker and one with a worker that rests, both of which have made the same
requests and learnt the same limits. -/
inductive Abreast (p q : Transport) : Prop
  | intro (c : Courier) (e : Emitter Envelope) (accepted : List Envelope)
      (batches : List (List Envelope)) : p.carrier = .immediate c false →
      q.carrier = .queued c e → e.Rests → e.Live accepted batches →
      batches.flatten = accepted → Abreast p q

namespace Abreast

variable {p q : Transport}

theorem requests (a : Abreast p q) : q.requests = p.requests := by
  obtain ⟨c, e, _, _, hp, hq, -⟩ := a
  simp only [Transport.requests, hp, hq]

theorem isLimited (a : Abreast p q) (t : Instant) (c : Category) :
    q.isLimited t c = p.isLimited t c := by
  obtain ⟨c, e, _, _, hp, hq, -⟩ := a
  simp only [Transport.isLimited, hp, hq]

theorem turn (a : Abreast p q) (now : Instant) (t : Emitter.Turn) :
    Abreast (p.turn now t) (q.turn now t) := by
  obtain ⟨c, e, accepted, batches, hp, hq, rests, live, all⟩ := a
  refine ⟨c, e, accepted, batches, ?_, ?_, rests, live, all⟩
  · rw [Transport.turn, hp]
    exact hp
  · rw [Transport.turn, hq]
    simp only [rests.turn]
    rfl

theorem turns (a : Abreast p q) (ws : List (Instant × Emitter.Turn)) :
    Abreast (ws.foldl (fun p w => p.turn w.1 w.2) p) (ws.foldl (fun p w => p.turn w.1 w.2) q) := by
  induction ws generalizing p q with
  | nil => exact a
  | cons w ws ih => exact ih (a.turn w.1 w.2)

/-- What the limits leave of an envelope is put in front of a worker at rest. -/
theorem send_rests {q : Transport} {c : Courier} {e : Emitter Envelope} {accepted : List Envelope}
    {batches : List (List Envelope)} (queued : q.carrier = .queued c e) (rests : e.Rests)
    (live : e.Live accepted batches) (now : Instant) (pace : Emitter.Pace) (x : Envelope) :
    ∃ e', (q.send now pace x).transport.carrier = .queued c e' ∧ e'.Taking [] ∧
      e'.Live (accepted ++ (c.limits.filter now x).toList) batches := by
  have enqueued (kept : Envelope) := rests.enqueue live.serving (pace.sub 0) kept
  cases left : c.limits.filter now x with
  | none =>
    refine ⟨e, ?_, rests.taking, by simpa using live⟩
    simp [Transport.send, queued, rests.turn, deliverBatches, left]
  | some kept =>
    refine ⟨e.put (.item kept), ?_, rests.taking.put kept, ?_⟩
    · simp [Transport.send, queued, rests.turn, deliverBatches, left, enqueued]
    · have live := live.enqueue (pace.sub 0) kept
      simpa [enqueued, Emitter.Enqueued.isAccepted] using live

theorem send (a : Abreast p q) (now : Instant) (x : Envelope) (pace sending flushing : Emitter.Pace)
    (flushed : ((q.send now sending x).transport.flush now flushing).1 = true) :
    Abreast (p.send now pace x).transport
      ((q.send now sending x).transport.flush now flushing).2 := by
  obtain ⟨c, e, accepted, batches, hp, hq, rests, live, all⟩ := a
  obtain ⟨e', queued, taking, live'⟩ := send_rests hq rests live now sending x
  have result : (e'.flush flushing).result = true := by
    simpa only [Transport.flush, queued] using flushed
  obtain ⟨live'', handed⟩ := live'.flush flushing
  -- what was accepted before was handed on before, so the flush hands on just what is left
  have left : (e'.flush flushing).batches.flatten = (c.limits.filter now x).toList := by
    have whole := handed result
    rw [List.flatten_append, all] at whole
    exact List.append_cancel_left whole
  refine ⟨(c.deliver now x).2, (e'.flush flushing).emitter, _, _, ?_, ?_,
    live'.rests taking result, live'', handed result⟩
  · simp only [Transport.send, hp]
  · simp only [Transport.flush, queued, deliverBatches_left left]

end Abreast

theorem Abreast.step {p q : Transport} (a : Abreast p q) (x : Parcel)
    (flushed : (q.handOverAndFlush x).1 = true) :
    Abreast (p.handOver x) (q.handOverAndFlush x).2 :=
  (a.turns x.before).send x.now x.envelope x.sending x.sending x.flushing flushed

theorem abreast_new (s s' : Settings) (r : Requester) :
    Abreast (new s (.immediate r)) (new s' (.queued r)) :=
  ⟨.new r, (Emitter.new s'.transportConfig).start, [], [], rfl, rfl, ⟨rfl, rfl, rfl⟩,
    Emitter.live_new _, rfl⟩

/-! ### Runs -/

/-- A transport after each of the parcels. -/
def afterEach : List Parcel → Transport → List Transport
  | [], _ => []
  | x :: xs, p => p.handOver x :: afterEach xs (p.handOver x)

/-- Whether the flush after each of the parcels succeeded, and the transport after it. -/
def afterEachFlush : List Parcel → Transport → List (Bool × Transport)
  | [], _ => []
  | x :: xs, p => p.handOverAndFlush x :: afterEachFlush xs (p.handOverAndFlush x).2

theorem Abreast.run {p q : Transport} (a : Abreast p q) {xs : List Parcel}
    (flushed : ∀ y ∈ q.afterEachFlush xs, y.1 = true) :
    List.Forall₂ (fun p y => Abreast p y.2) (p.afterEach xs) (q.afterEachFlush xs) := by
  induction xs generalizing p q with
  | nil => exact .nil
  | cons x xs ih =>
    have next := a.step x (flushed _ List.mem_cons_self)
    exact .cons next (ih next fun y hy => flushed y (List.mem_cons_of_mem _ hy))

/-- A transport with a worker that is flushed after each envelope, every time with success, makes the
requests of one without a worker, and says after every envelope that the same categories are limited
at any time. -/
theorem flushed_is_immediate (s s' : Settings) (r : Requester) (xs : List Parcel)
    (flushed : ∀ y ∈ (new s' (.queued r)).afterEachFlush xs, y.1 = true) :
    List.Forall₂
      (fun p y => y.2.requests = p.requests ∧ ∀ t c, y.2.isLimited t c = p.isLimited t c)
      ((new s (.immediate r)).afterEach xs) ((new s' (.queued r)).afterEachFlush xs) :=
  ((abreast_new s s' r).run flushed).imp fun _ _ a => ⟨a.requests, a.isLimited⟩

/-- The first answer is that there are too many requests, so the second envelope is held back, and
the third one comes after the limit has ended. -/
theorem flushed_is_immediate_limited :
    let r : Requester := fun n _ => .answered ⟨if n = 0 then 429 else 200, none, none⟩
    let s : Settings := { Settings.default with
      transportBatchSize := 2, queuePolicy := .dropNewest }
    let busy : Emitter.Pace := fun _ => ⟨8, false, false⟩
    let parcel (seconds : Nat) : Parcel :=
      ⟨.ofSeconds seconds, .ofItem (.logs []), [(.epoch, ⟨1, false, true⟩)], busy, busy⟩
    let xs := [parcel 0, parcel 10, parcel 100]
    (∀ y ∈ (new s (.queued r)).afterEachFlush xs, y.1 = true) ∧
      List.Forall₂
        (fun p y => y.2.requests = p.requests ∧ ∀ t c, y.2.isLimited t c = p.isLimited t c)
        ((new .default (.immediate r)).afterEach xs) ((new s (.queued r)).afterEachFlush xs) ∧
      ((new .default (.immediate r)).afterEach xs).map (fun p => p.requests.length) = [1, 1, 2] := by
  intro r s busy parcel xs
  have flushed : ∀ y ∈ (new s (.queued r)).afterEachFlush xs, y.1 = true := by decide +kernel
  exact ⟨flushed, flushed_is_immediate .default s r xs flushed, by decide +kernel⟩

end Transport

end Telemetry
