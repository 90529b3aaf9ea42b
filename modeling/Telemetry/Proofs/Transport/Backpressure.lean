import Telemetry.Proofs.Transport.Flushed
import Telemetry.Proofs.Transport.Operations
import Telemetry.Proofs.Transport.Unlimited

/-! Backpressure. Without rate limits and panics, a transport with a worker asks for every envelope
that it is offered or counts it as dropped; it drops none if callers wait for room; and after a
shutdown no offer changes anything. -/

namespace Telemetry

/-! ### Envelopes -/

/-- The envelopes with items, as they are sent. -/
def Envelope.sendable (es : List Envelope) : List Envelope :=
  (es.filter fun e => !e.isEmpty).map fun e => .ofItems e.items

theorem RateLimits.filter_none (now : Instant) (e : Envelope) :
    RateLimits.none.filter now e =
      if e.isEmpty then .none else some (Envelope.ofItems e.items) := by
  have all : e.items.filter (fun i => !RateLimits.none.isLimited now i.category) = e.items := by
    simp [RateLimits.isLimited_none]
  have same : (Envelope.ofItems e.items).isEmpty = e.isEmpty := by
    rw [Envelope.isEmpty, Envelope.items_ofItems, Envelope.isEmpty]
  simp only [RateLimits.filter, Envelope.filter, all, same]

theorem Envelope.sendable_append (now : Instant) (es : List Envelope) (e : Envelope) :
    sendable (es ++ [e]) = sendable es ++ (RateLimits.none.filter now e).toList := by
  rw [RateLimits.filter_none, sendable, List.filter_append, List.map_append]
  cases empty : e.isEmpty <;> simp [sendable, empty]

theorem Envelope.filter_sendable (now : Instant) {es : List Envelope} {e : Envelope}
    (h : e ∈ sendable es) : RateLimits.none.filter now e = some e := by
  obtain ⟨e', he', rfl⟩ := List.mem_map.mp h
  have full : e'.isEmpty = false := by simpa using (List.mem_filter.mp he').2
  refine filter_kept (e := e') (p := fun i => !RateLimits.none.isLimited now i.category) ?_
  show RateLimits.none.filter now e' = _
  rw [RateLimits.filter_none, full]
  rfl

/-! ### Deliveries -/

/-- A courier that meets neither limits nor panics. -/
structure Courier.Calm (c : Courier) : Prop extends c.Unlimited where
  calm : ∀ n e, c.requester n e ≠ .panicked

namespace Courier.Calm

variable {now : Instant} {c : Courier}

theorem deliver (h : c.Calm) {e : Envelope} (whole : RateLimits.none.filter now e = some e) :
    c.deliver now e = (.done (c.requester c.requests.length e),
      { c with requests := c.requests ++ [e] }) := by
  have limits : Courier.learn now c.limits (c.requester c.requests.length e) = c.limits := by
    rw [h.limits]
    exact h.answers now _ e
  rw [← h.limits] at whole
  simp only [Courier.deliver, whole, limits]

theorem deliverAll (h : c.Calm) {es : List Envelope}
    (whole : ∀ e ∈ es, RateLimits.none.filter now e = some e) :
    c.deliverAll now es = { c with requests := c.requests ++ es } := by
  induction es generalizing c with
  | nil => rw [List.append_nil, Courier.deliverAll]
  | cons e es ih =>
    have first := h.deliver (whole e List.mem_cons_self)
    have calm : (c.fate now e).panics = false := by
      have panics := Courier.deliver_panics now e c
      rw [first] at panics
      simpa [h.calm] using panics
    have next : Calm { c with requests := c.requests ++ [e] } := ⟨⟨h.limits, h.answers⟩, h.calm⟩
    rw [Courier.deliverAll_cons, calm, if_neg Bool.false_ne_true, first,
      ih next fun e he => whole e (List.mem_cons_of_mem _ he), List.append_assoc]
    rfl

theorem deliverBatches (h : c.Calm) {batches : List (List Envelope)}
    (whole : ∀ e ∈ batches.flatten, RateLimits.none.filter now e = some e) :
    Transport.deliverBatches now batches c =
      { c with requests := c.requests ++ batches.flatten } := by
  induction batches generalizing c with
  | nil => rw [List.flatten_nil, List.append_nil, Transport.deliverBatches, List.foldl_nil]
  | cons b bs ih =>
    rw [List.flatten_cons] at whole
    have first := h.deliverAll fun e he => whole e (List.mem_append_left _ he)
    have next : Calm { c with requests := c.requests ++ b } := ⟨⟨h.limits, h.answers⟩, h.calm⟩
    have rest : Transport.deliverBatches now (b :: bs) c =
        Transport.deliverBatches now bs (c.deliverAll now b) := rfl
    rw [rest, first, ih next fun e he => whole e (List.mem_append_right _ he), List.flatten_cons,
      List.append_assoc]

end Courier.Calm

/-! ### Counting -/

namespace Emitter

variable {α : Type} {e : Emitter α}

theorem Requests.counts {task : Nat → Task α} {r : Outcome α Requested} (h : Requests task e r) :
    r.emitter.config = e.config ∧ r.emitter.dropped = e.dropped := by
  cases h with
  | unsent w => exact ⟨w.frame.config, w.frame.dropped⟩
  | unanswered w w' | answered w w' _ =>
    exact ⟨w'.frame.config.trans w.frame.config, w'.frame.dropped.trans w.frame.dropped⟩

theorem flush_counts (pace : Pace) (e : Emitter α) :
    (e.flush pace).emitter.config = e.config ∧ (e.flush pace).emitter.dropped = e.dropped := by
  cases accepting : e.accepting with
  | false => simp [flush_closed accepting]
  | true =>
    rw [flush_accepting accepting]
    obtain ⟨config, dropped⟩ := (requests pace .flush e.start).counts
    exact ⟨config.trans (frame_start e).config, dropped.trans (frame_start e).dropped⟩

theorem shutdown_dropped (pace : Pace) (e : Emitter α) :
    (e.shutdown pace).emitter.dropped = e.dropped := by
  unfold shutdown
  split
  · rfl
  · dsimp only
    split
    · rfl
    · split
      · rfl
      · exact (requests pace .shutdown e.close).counts.2

theorem enqueue_config (pace : Pace) (a : α) (e : Emitter α) :
    (e.enqueue pace a).emitter.config = e.config := by
  have outcome := enqueues pace a e
  generalize e.enqueue pace a = r at outcome
  cases outcome with
  | closed => rfl
  | accepted _ w => exact w.frame.config.trans (frame_start e).config
  | gone _ w => exact w.frame.config.trans (frame_start e).config
  | full _ w => exact w.frame.config.trans (frame_start e).config

/-- The items that were refused for want of room. -/
def Enqueued.refused : Enqueued → Nat
  | .full _ => 1
  | _ => 0

theorem enqueue_dropped (pace : Pace) (a : α) (e : Emitter α) :
    (e.enqueue pace a).emitter.dropped = e.dropped + (e.enqueue pace a).result.refused := by
  have outcome := enqueues pace a e
  generalize e.enqueue pace a = r at outcome
  cases outcome with
  | closed => rfl
  | accepted _ w => exact w.frame.dropped.trans (frame_start e).dropped
  | gone _ w => exact w.frame.dropped.trans (frame_start e).dropped
  | full _ w => exact congrArg (· + 1) (w.frame.dropped.trans (frame_start e).dropped)

/-- Whoever waits for room is not refused for want of it. -/
theorem enqueue_full {pace : Pace} {a : α} {n : Nat} (h : (e.enqueue pace a).result = .full n) :
    e.config.policy = .dropNewest := by
  have config : (e.start.turn pace.turn).2.config = e.config :=
    (works_turn pace.turn e.start).frame.config.trans (frame_start e).config
  unfold enqueue at h
  split at h
  · cases h
  · dsimp only at h
    split at h
    · split at h <;> cases h
    · next policy => rwa [config] at policy

end Emitter

namespace Transport

open Envelope (sendable)

/-! ### Before a shutdown -/

/-- What is known of a transport that nobody has shut down: each envelope with items that it was
offered was accepted or counted as dropped. -/
structure Tally (policy : QueuePolicy) (offered : List Envelope) (c : Courier)
    (e : Emitter Envelope) (accepted : List Envelope) (batches : List (List Envelope)) : Prop where
  calm : c.Calm
  live : e.Live accepted batches
  made : c.requests = batches.flatten
  among : accepted.Sublist (sendable offered)
  count : accepted.length + e.dropped = (sendable offered).length
  config : e.config.policy = policy
  waits : policy = .block → e.dropped = 0

variable {policy : QueuePolicy} {offered accepted : List Envelope} {c : Courier}
  {e e' : Emitter Envelope} {batches more : List (List Envelope)}

/-- What the worker hands on was offered, and is delivered whole. -/
theorem Tally.delivers (t : Tally policy offered c e accepted batches) (now : Instant)
    {offered' accepted' : List Envelope} (served : e'.Served accepted' (batches ++ more))
    (among : accepted'.Sublist (sendable offered')) :
    deliverBatches now more c = { c with requests := (batches ++ more).flatten } := by
  rw [t.calm.deliverBatches, t.made, List.flatten_append]
  intro a ha
  have handed : a ∈ (batches ++ more).flatten := by
    rw [List.flatten_append]
    exact List.mem_append_right _ ha
  exact Envelope.filter_sendable now (among.subset (served.handed_first.subset handed))

theorem Tally.works (t : Tally policy offered c e accepted batches) (now : Instant)
    (live : e'.Live accepted (batches ++ more)) (config : e'.config = e.config)
    (dropped : e'.dropped = e.dropped) :
    Tally policy offered (deliverBatches now more c) e' accepted (batches ++ more) := by
  rw [t.delivers now live.served t.among]
  refine ⟨⟨⟨t.calm.limits, t.calm.answers⟩, t.calm.calm⟩, live, rfl, t.among, ?_, ?_, ?_⟩
  · rw [dropped]
    exact t.count
  · rw [config]
    exact t.config
  · rw [dropped]
    exact t.waits

/-- Of an envelope that is put into the queue, either it is accepted or one more is dropped. -/
theorem Tally.enqueue (t : Tally policy offered c e accepted batches) (now : Instant)
    (pace : Emitter.Pace) {a kept : Envelope} (left : RateLimits.none.filter now a = some kept) :
    let r := e.enqueue pace kept
    Tally policy (offered ++ [a]) (deliverBatches now r.batches c) r.emitter
      (accepted ++ if r.result.isAccepted then [kept] else []) (batches ++ r.batches) := by
  intro r
  have live := t.live.enqueue pace kept
  have one : sendable (offered ++ [a]) = sendable offered ++ [kept] := by
    rw [Envelope.sendable_append now, left, Option.toList_some]
  have dropped : r.emitter.dropped = e.dropped + r.result.refused :=
    Emitter.enqueue_dropped pace kept e
  have answer : r.result = .accepted ∨ ∃ n, r.result = .full n :=
    (t.live.serving.enqueue pace kept).2
  have among : (accepted ++ if r.result.isAccepted then [kept] else []).Sublist
      (sendable (offered ++ [a])) := by
    rw [one]
    refine t.among.append ?_
    split
    · exact List.Sublist.refl _
    · exact List.nil_sublist _
  rw [t.delivers now live.served among]
  refine ⟨⟨⟨t.calm.limits, t.calm.answers⟩, t.calm.calm⟩, live, rfl, among, ?_, ?_, fun waits => ?_⟩
  · have count := t.count
    rw [one, dropped, List.length_append, List.length_append]
    rcases answer with accepted | ⟨n, full⟩
    · simp [accepted, Emitter.Enqueued.isAccepted, Emitter.Enqueued.refused]
      omega
    · simp [full, Emitter.Enqueued.isAccepted, Emitter.Enqueued.refused]
      omega
  · rw [Emitter.enqueue_config]
    exact t.config
  · rcases answer with accepted | ⟨n, full⟩
    · rw [dropped, accepted, t.waits waits]
      rfl
    · have drops := Emitter.enqueue_full full
      rw [t.config, waits] at drops
      cases drops

/-- A transport whose envelopes are all accounted for. -/
def Tallied (policy : QueuePolicy) (p : Transport) : Prop :=
  ∃ c e accepted batches, p.carrier = .queued c e ∧
    Tally policy p.offered c e accepted batches

def shuts : History.Operation → Bool
  | .shutdown _ _ => true
  | _ => false

theorem Tallied.run {p : Transport} (h : Tallied policy p) {o : History.Operation}
    (other : shuts o = false) : Tallied policy (o.run p) := by
  obtain ⟨offered, _⟩ := p
  obtain ⟨c, e, accepted, batches, ⟨⟩, t⟩ := h
  cases o with
  | shutdown => cases other
  | turn now w =>
    have frame := (Emitter.works_turn w e).frame
    exact ⟨_, _, _, _, rfl, t.works now (t.live.turn w) frame.config frame.dropped⟩
  | flush now pace =>
    obtain ⟨config, dropped⟩ := Emitter.flush_counts pace e
    exact ⟨_, _, _, _, rfl, t.works now (t.live.flush pace).1 config dropped⟩
  | send now pace a =>
    -- the worker goes on first
    have frame := (Emitter.works_turn pace.turn e).frame
    have t₁ := t.works now (t.live.turn pace.turn) frame.config frame.dropped
    simp only [History.Operation.run, Transport.send]
    generalize deliverBatches now (e.turn pace.turn).1 c = c₁ at t₁ ⊢
    rw [t₁.calm.limits]
    cases left : RateLimits.none.filter now a with
    | some kept => exact ⟨_, _, _, _, rfl, t₁.enqueue now (pace.sub 0) left⟩
    | none =>
      have same : sendable (offered ++ [a]) = sendable offered := by
        rw [Envelope.sendable_append now, left, Option.toList_none, List.append_nil]
      refine ⟨_, _, _, _, rfl, ⟨t₁.calm, t₁.live, t₁.made, ?_, ?_, t₁.config, t₁.waits⟩⟩
      · exact same ▸ t₁.among
      · exact same ▸ t₁.count

theorem tallied_new (s : Settings) {r : Requester}
    (free : ∀ now n e, Courier.learn now .none (r n e) = .none) (calm : ∀ n e, r n e ≠ .panicked) :
    Tallied s.queuePolicy (new s (.queued r)) :=
  ⟨_, _, [], [], rfl,
    ⟨⟨⟨rfl, free⟩, calm⟩, Emitter.live_new s.transportConfig, rfl, .slnil, rfl, rfl, fun _ => rfl⟩⟩

theorem Tallied.runs {p : Transport} (h : Tallied policy p) {os : List History.Operation}
    (unshut : ∀ o ∈ os, shuts o = false) : Tallied policy (os.foldl History.Operation.run p) := by
  induction os generalizing p with
  | nil => exact h
  | cons o os ih =>
    refine ih (h.run (unshut o List.mem_cons_self)) fun o' ho' => ?_
    exact unshut o' (List.mem_cons_of_mem _ ho')

/-! ### After a shutdown -/

/-- A transport that takes nothing more, and has dropped so many envelopes. -/
def Silent (dropped : Nat) (p : Transport) : Prop :=
  ∃ c e, p.carrier = .queued c e ∧ e.accepting = false ∧ e.dropped = dropped

/-- What remains of an operation when offers change nothing: the worker gets as far. -/
def withoutOffer : History.Operation → History.Operation
  | .send now pace _ => .turn now pace.turn
  | o => o

theorem carrier_send_closed {p : Transport} (carrier : p.carrier = .queued c e)
    (closed : e.accepting = false) (now : Instant) (pace : Emitter.Pace) (a : Envelope) :
    (p.send now pace a).transport.carrier = (p.turn now pace.turn).carrier := by
  obtain ⟨offered, _⟩ := p
  cases carrier
  have frame := (Emitter.works_turn pace.turn e).frame
  simp only [Transport.send, Transport.turn]
  cases (deliverBatches now (e.turn pace.turn).1 c).limits.filter now a with
  | none => rfl
  | some kept =>
    dsimp only
    rw [Emitter.enqueue_closed (frame.accepting.trans closed)]
    rfl

/-- What was offered plays no part in what comes. -/
theorem carrier_run {p q : Transport} (same : p.carrier = q.carrier) (o : History.Operation) :
    (o.run p).carrier = (o.run q).carrier := by
  obtain ⟨offered, carrier⟩ := p
  obtain ⟨offered', carrier'⟩ := q
  obtain rfl : carrier = carrier' := same
  cases o with
  | turn now w => cases carrier <;> rfl
  | flush now pace => cases carrier <;> rfl
  | shutdown now pace => cases carrier <;> rfl
  | send now pace a =>
    cases carrier with
    | collecting | discarding => rfl
    | immediate c closed => cases closed <;> rfl
    | queued c e =>
      simp only [History.Operation.run, Transport.send]
      split <;> rfl

theorem Silent.run {dropped : Nat} {p : Transport} (h : Silent dropped p) (o : History.Operation) :
    Silent dropped (o.run p) ∧ (o.run p).carrier = ((withoutOffer o).run p).carrier := by
  obtain ⟨c, e, carrier, closed, rfl⟩ := h
  have turned : ∀ now w, Silent e.dropped (Transport.turn now w p) := by
    intro now w
    have frame := (Emitter.works_turn w e).frame
    refine ⟨deliverBatches now (e.turn w).1 c, (e.turn w).2, ?_, frame.accepting.trans closed,
      frame.dropped⟩
    rw [Transport.turn, carrier]
  cases o with
  | turn now w => exact ⟨turned now w, rfl⟩
  | flush now pace =>
    refine ⟨⟨c, e, ?_, closed, rfl⟩, rfl⟩
    simp only [History.Operation.run, Transport.flush, carrier, Emitter.flush_closed closed]
    rfl
  | shutdown now pace =>
    refine ⟨⟨c, e, ?_, closed, rfl⟩, rfl⟩
    simp only [History.Operation.run, Transport.shutdown, carrier, Emitter.shutdown_closed closed]
    rfl
  | send now pace a =>
    have same := carrier_send_closed carrier closed now pace a
    obtain ⟨c', e', carrier', rest⟩ := turned now pace.turn
    exact ⟨⟨c', e', same.trans carrier', rest⟩, same⟩

/-- Offers after a shutdown change nothing but what was offered. -/
theorem Silent.runs {dropped : Nat} {p q : Transport} (h : Silent dropped p)
    (same : p.carrier = q.carrier) (os : List History.Operation) :
    Silent dropped (os.foldl History.Operation.run p) ∧
      (os.foldl History.Operation.run p).carrier =
        ((os.map withoutOffer).foldl History.Operation.run q).carrier := by
  induction os generalizing p q with
  | nil => exact ⟨h, same⟩
  | cons o os ih =>
    obtain ⟨silent, without⟩ := h.run o
    exact ih silent (without.trans (carrier_run same _))

/-- A transport that has delivered everything that it accepted. -/
def Finished (requests : List Envelope) (p : Transport) : Prop :=
  ∃ c e accepted batches, p.carrier = .queued c e ∧ e.accepting = false ∧
    e.Served accepted batches ∧ batches.flatten = accepted ∧ c.requests = requests

theorem Finished.run {requests : List Envelope} {p : Transport} (h : Finished requests p)
    (o : History.Operation) : Finished requests (o.run p) := by
  obtain ⟨c, e, accepted, batches, carrier, closed, served, all, made⟩ := h
  have turned : ∀ now w, Finished requests (Transport.turn now w p) := by
    intro now w
    have after := served.works (Emitter.works_turn w e)
    -- nothing is left for the worker to hand on
    have handed := after.handed_first
    rw [List.flatten_append, all] at handed
    have nothing : (e.turn w).1.flatten = [] := by
      have short := handed.length_le
      rw [List.length_append] at short
      exact List.length_eq_zero_iff.mp (by omega)
    refine ⟨c, (e.turn w).2, accepted, batches ++ (e.turn w).1, ?_, ?_, after, ?_, made⟩
    · simp only [Transport.turn, carrier, deliverBatches_of_flatten_nil nothing]
    · exact (Emitter.works_turn w e).frame.accepting.trans closed
    · rw [List.flatten_append, nothing, List.append_nil, all]
  cases o with
  | turn now w => exact turned now w
  | flush now pace =>
    refine ⟨c, e, accepted, batches, ?_, closed, served, all, made⟩
    simp only [History.Operation.run, Transport.flush, carrier, Emitter.flush_closed closed]
    rfl
  | shutdown now pace =>
    refine ⟨c, e, accepted, batches, ?_, closed, served, all, made⟩
    simp only [History.Operation.run, Transport.shutdown, carrier, Emitter.shutdown_closed closed]
    rfl
  | send now pace a =>
    obtain ⟨c', e', accepted', batches', carrier', rest⟩ := turned now pace.turn
    exact ⟨c', e', accepted', batches',
      (carrier_send_closed carrier closed now pace a).trans carrier', rest⟩

theorem Finished.requests_runs {requests : List Envelope} {p : Transport} (h : Finished requests p)
    (os : List History.Operation) : (os.foldl History.Operation.run p).requests = requests := by
  have kept : Finished requests (os.foldl History.Operation.run p) :=
    List.foldlRecOn os History.Operation.run h fun _ h o _ => h.run o
  obtain ⟨c, e, accepted, batches, carrier, -, -, -, made⟩ := kept
  rw [Transport.requests, carrier]
  exact made

/-! ### Shutting down -/

theorem Tallied.shutdown_silent {p : Transport} (h : Tallied policy p) (now : Instant)
    (pace : Emitter.Pace) : Silent p.dropped (p.shutdown now pace).2.2 := by
  obtain ⟨offered, _⟩ := p
  obtain ⟨c, e, accepted, batches, ⟨⟩, t⟩ := h
  exact ⟨_, _, rfl, Emitter.accepting_shutdown pace e, Emitter.shutdown_dropped pace e⟩

/-- A shutdown that succeeds has delivered everything that was accepted. -/
theorem Tallied.shutdown_finished {p : Transport} (h : Tallied policy p) {now : Instant}
    {pace : Emitter.Pace} (done : (p.shutdown now pace).1 = true) :
    ∃ requests, Finished requests (p.shutdown now pace).2.2 ∧
      requests.Sublist (sendable p.offered) ∧
      requests.length + p.dropped = (sendable p.offered).length := by
  obtain ⟨offered, _⟩ := p
  obtain ⟨c, e, accepted, batches, ⟨⟩, t⟩ := h
  have serving := t.live.serving
  obtain ⟨served, all⟩ := t.live.served.shutdown serving.accepting serving.held
    (fun unborn => absurd unborn serving.born) pace
  have delivered := t.delivers now served t.among
  refine ⟨accepted, ?_, t.among, t.count⟩
  refine ⟨_, _, accepted, _, rfl, Emitter.accepting_shutdown pace e, served, all done, ?_⟩
  rw [delivered]
  exact all done

theorem Tallied.waits {p : Transport} (h : Tallied .block p) : p.dropped = 0 := by
  obtain ⟨c, e, accepted, batches, carrier, t⟩ := h
  rw [Transport.dropped, carrier]
  exact t.waits rfl

/-! ### Runs -/

def offered? : History.Operation → Option Envelope
  | .send _ _ e => some e
  | _ => none

theorem offered_runs (p : Transport) (os : List History.Operation) :
    (os.foldl History.Operation.run p).offered = p.offered ++ os.filterMap offered? := by
  induction os generalizing p with
  | nil => exact (List.append_nil _).symm
  | cons o os ih =>
    rw [List.foldl_cons, ih]
    cases o with
    | send now pace e =>
      rw [show (History.Operation.send now pace e).run p = (p.send now pace e).transport from rfl,
        offered_send, List.append_assoc]
      rfl
    | turn now w => exact congrArg (· ++ _) (offered_turn now w p)
    | flush now pace => exact congrArg (· ++ _) (offered_flush now pace p)
    | shutdown now pace =>
      obtain ⟨offered, carrier⟩ := p
      cases carrier <;> rfl

/-- Without limits and panics, every envelope with items that was offered before a shutdown which
succeeds was asked for or counted as dropped, the ones that were asked for in their order; whoever
waits for room has all of them asked for; and whatever a shutdown comes to, offers after it change
neither the requests nor the count. -/
theorem backpressure_exact (s : Settings) {r : Requester}
    (free : ∀ now n e, Courier.learn now .none (r n e) = .none) (calm : ∀ n e, r n e ≠ .panicked)
    {os : List History.Operation} (unshut : ∀ o ∈ os, shuts o = false) (now : Instant)
    (pace : Emitter.Pace) (later : List History.Operation) :
    let offers := sendable (os.filterMap offered?)
    let p := os.foldl History.Operation.run (new s (.queued r))
    let closed := (p.shutdown now pace).2.2
    let q := later.foldl History.Operation.run closed
    ((p.shutdown now pace).1 = true →
      q.requests.Sublist offers ∧ q.requests.length + q.dropped = offers.length ∧
        (s.queuePolicy = .block → q.requests = offers)) ∧
    (s.queuePolicy = .block → p.dropped = 0 ∧ q.dropped = 0) ∧
    q.dropped = p.dropped ∧
    q.requests = ((later.map withoutOffer).foldl History.Operation.run closed).requests := by
  intro offers p closed q
  have tallied : Tallied s.queuePolicy p := (tallied_new s free calm).runs unshut
  have offered : sendable p.offered = offers := by
    rw [offered_runs]
    rfl
  obtain ⟨silent, without⟩ := (tallied.shutdown_silent now pace).runs rfl later
  have dropped : q.dropped = p.dropped := by
    obtain ⟨c, e, carrier, -, count⟩ := silent
    rw [Transport.dropped, carrier]
    exact count
  have waits : s.queuePolicy = .block → p.dropped = 0 := by
    intro policy
    rw [policy] at tallied
    exact tallied.waits
  refine ⟨fun done => ?_, fun policy => ⟨waits policy, dropped.trans (waits policy)⟩, dropped, ?_⟩
  · obtain ⟨requests, finished, among, count⟩ := tallied.shutdown_finished done
    have made : q.requests = requests := finished.requests_runs later
    rw [made, dropped, ← offered]
    refine ⟨among, count, fun policy => among.eq_of_length ?_⟩
    rw [waits policy] at count
    exact count
  · rw [Transport.requests, Transport.requests, without]

/-- The worker is held up with the first of five envelopes, of which the second one is empty; the
third one waits, and there is no room for the others. Two more come after the shutdown. -/
theorem backpressure_exact_burst :
    let s : Settings := { Settings.default with
      transportBatchSize := 1, queuePolicy := .dropNewest }
    let r : Requester := fun _ _ => .failed .noDsn
    let held : Emitter.Pace := fun _ => ⟨9, true, false⟩
    let busy : Emitter.Pace := fun _ => ⟨9, false, false⟩
    let e : Envelope := .ofItem (.logs [])
    let send (e : Envelope) : History.Operation := .send .epoch held e
    let os := [send e, .turn .epoch ⟨9, true, false⟩, send .empty, send e, send e, send e]
    let later := [send e, .flush .epoch busy, send e]
    (∀ o ∈ os, shuts o = false) ∧
      ((os.foldl History.Operation.run (new s (.queued r))).shutdown .epoch busy).1 = true ∧
      let p := os.foldl History.Operation.run (new s (.queued r))
      let q := later.foldl History.Operation.run (p.shutdown .epoch busy).2.2
      q.requests.Sublist (sendable (os.filterMap offered?)) ∧
        (sendable (os.filterMap offered?)).length = 4 ∧ q.requests.length = 2 ∧ q.dropped = 2 := by
  intro s r held busy e send os later
  have done :
      ((os.foldl History.Operation.run (new s (.queued r))).shutdown .epoch busy).1 = true := by
    decide +kernel
  have unshut : ∀ o ∈ os, shuts o = false := by decide +kernel
  have free : ∀ now n e, Courier.learn now .none (r n e) = .none := fun _ _ _ => rfl
  have counted := (backpressure_exact s free (fun _ _ => nofun) unshut .epoch busy later).1 done
  exact ⟨unshut, done, counted.1, by decide +kernel⟩

end Transport

end Telemetry
