import Telemetry.Proofs.Emitter.Barrier
import Telemetry.Transport.Basic

/-! What becomes of every envelope that is handed to a transport with a worker. The transport lets
an envelope in or turns it away; one that was let in gets to its delivery, where the limits may leave
nothing of it, and where a panic over another envelope of its batch may come first. A ledger has an
entry for each of these, and after a flush that succeeds there is no envelope between the two. -/

namespace Telemetry

/-! ### Deliveries -/

/-- What became of an envelope when its batch was delivered. -/
inductive Fate where
  /-- The limits left nothing of it. -/
  | limited
  /-- A request was made with what the limits left of it. -/
  | given (kept : Envelope) (result : RequestResult)
  /-- A panic had ended the delivery of the batch. -/
  | lost

namespace Fate

def given? : Fate → Option Envelope
  | .given kept _ => some kept
  | _ => none

def panics : Fate → Bool
  | .given _ .panicked => true
  | _ => false

end Fate

namespace Courier

variable {now : Instant}

def fate (now : Instant) (e : Envelope) (c : Courier) : Fate :=
  match c.limits.filter now e with
  | none => .limited
  | some kept => .given kept (c.requester c.requests.length kept)

/-- What becomes of the envelopes of a batch. -/
def fates (now : Instant) : List Envelope → Courier → List (Envelope × Fate)
  | [], _ => []
  | e :: es, c =>
    (e, c.fate now e) ::
      if (c.fate now e).panics then es.map fun e => (e, .lost) else fates now es (c.deliver now e).2

theorem deliver_requests (e : Envelope) (c : Courier) :
    (c.deliver now e).2.requests = c.requests ++ (c.fate now e).given?.toList := by
  unfold deliver fate
  cases c.limits.filter now e with
  | none => exact (List.append_nil _).symm
  | some kept => rfl

theorem deliver_panics (now : Instant) (e : Envelope) (c : Courier) :
    (c.deliver now e).1 = .done .panicked ↔ (c.fate now e).panics = true := by
  unfold deliver fate
  cases c.limits.filter now e with
  | none => simp [Fate.panics]
  | some kept =>
    dsimp only
    cases c.requester c.requests.length kept <;> simp [Fate.panics]

theorem deliverAll_cons (e : Envelope) (es : List Envelope) (c : Courier) :
    c.deliverAll now (e :: es) =
      if (c.fate now e).panics then (c.deliver now e).2
      else (c.deliver now e).2.deliverAll now es := by
  have panics := deliver_panics now e c
  -- the delivery is looked at by its result, the fate by what it says of a panic
  rw [deliverAll]
  rcases delivered : c.deliver now e with ⟨d, c'⟩
  rw [delivered] at panics
  by_cases panicked : d = .done .panicked
  · rw [if_pos (panics.mp panicked), panicked]
  · rw [if_neg (mt panics.mpr panicked)]
    split
    · next same => exact absurd (Prod.mk.inj same).1 panicked
    · next same => rw [← (Prod.mk.inj same).2]

theorem fates_envelopes (es : List Envelope) (c : Courier) :
    (c.fates now es).map Prod.fst = es := by
  induction es generalizing c with
  | nil => rfl
  | cons e es ih =>
    rw [fates]
    split
    · simp [Function.comp_def]
    · simp [ih]

theorem deliverAll_requests (es : List Envelope) (c : Courier) :
    (c.deliverAll now es).requests =
      c.requests ++ (c.fates now es).filterMap fun x => x.2.given? := by
  induction es generalizing c with
  | nil => exact (List.append_nil _).symm
  | cons e es ih =>
    rw [deliverAll_cons, fates, List.filterMap_cons]
    split
    · have lost : (es.map fun e => (e, Fate.lost)).filterMap (fun x => x.2.given?) = [] := by
        simp [Fate.given?]
      rw [deliver_requests, lost]
      cases (c.fate now e).given? <;> rfl
    · rw [ih, deliver_requests]
      cases (c.fate now e).given? <;> simp

theorem fate_ne_lost (now : Instant) (e : Envelope) (c : Courier) : c.fate now e ≠ .lost := by
  unfold fate
  cases c.limits.filter now e <;> exact nofun

/-- In a batch that no request panics over, none is lost. -/
theorem none_lost_of_calm {es : List Envelope} {c : Courier}
    (calm : ∀ x ∈ c.fates now es, x.2.panics = false) : ∀ x ∈ c.fates now es, x.2 ≠ .lost := by
  induction es generalizing c with
  | nil => exact nofun
  | cons e es ih =>
    rw [fates] at calm ⊢
    rw [calm _ List.mem_cons_self] at calm ⊢
    intro x hx
    rcases List.mem_cons.mp hx with rfl | hx
    · exact fate_ne_lost now e c
    · exact ih (fun y hy => calm y (List.mem_cons_of_mem _ hy)) x hx

end Courier

namespace Transport

/-- What becomes of the batches that a worker hands on. -/
def fates (now : Instant) : List (List Envelope) → Courier → List (List (Envelope × Fate))
  | [], _ => []
  | b :: bs, c => c.fates now b :: fates now bs (c.deliverAll now b)

theorem fates_envelopes (now : Instant) (bs : List (List Envelope)) (c : Courier) :
    (fates now bs c).map (List.map Prod.fst) = bs := by
  induction bs generalizing c with
  | nil => rfl
  | cons b bs ih => rw [fates, List.map_cons, Courier.fates_envelopes, ih]

theorem deliverBatches_requests (now : Instant) (bs : List (List Envelope)) (c : Courier) :
    (deliverBatches now bs c).requests =
      c.requests ++ (fates now bs c).flatten.filterMap fun x => x.2.given? := by
  induction bs generalizing c with
  | nil => exact (List.append_nil _).symm
  | cons b bs ih =>
    have rest : (deliverBatches now (b :: bs) c) = deliverBatches now bs (c.deliverAll now b) := rfl
    rw [rest, ih, Courier.deliverAll_requests, fates, List.flatten_cons, List.filterMap_append,
      List.append_assoc]

theorem fates_mem {now : Instant} {bs : List (List Envelope)} {c : Courier}
    {f : List (Envelope × Fate)} (h : f ∈ fates now bs c) :
    ∃ (es : List Envelope) (c : Courier), c.fates now es = f := by
  induction bs generalizing c with
  | nil => cases h
  | cons b bs ih =>
    rcases List.mem_cons.mp h with rfl | h
    · exact ⟨b, c, rfl⟩
    · exact ih h

/-! ### Admissions -/

/-- What became of an envelope when it was handed over. -/
inductive Admission where
  /-- The limits left nothing of it. -/
  | limited
  /-- What the limits left of it was offered to the worker. -/
  | asked (kept : Envelope) (answer : Emitter.Enqueued)

def Admission.letIn? : Admission → Option Envelope
  | .limited => none
  | .asked kept answer => if answer.isAccepted then some kept else none

/-- What became of the envelopes that were handed over, the first one first, and of those in the
batches that were delivered. -/
structure Ledger where
  offers : List (Envelope × Admission)
  batches : List (List (Envelope × Fate))

namespace Ledger

def empty : Ledger := ⟨[], []⟩

/-- What was let in, the first one first. -/
def letIn (l : Ledger) : List Envelope := l.offers.filterMap fun x => x.2.letIn?

/-- What requests were made with, the first one first. -/
def given (l : Ledger) : List Envelope := l.batches.flatten.filterMap fun x => x.2.given?

def offer (e : Envelope) (a : Admission) (l : Ledger) : Ledger :=
  { l with offers := l.offers ++ [(e, a)] }

def deliver (now : Instant) (batches : List (List Envelope)) (c : Courier) (l : Ledger) : Ledger :=
  { l with batches := l.batches ++ fates now batches c }

/-- Notes what a transport does while an envelope is handed over; the others likewise. -/
def send (now : Instant) (pace : Emitter.Pace) (e : Envelope) (p : Transport) (l : Ledger) :
    Ledger :=
  match p.carrier with
  | .queued courier emitter =>
    let (before, emitter) := emitter.turn pace.turn
    let l := l.deliver now before courier
    let courier := deliverBatches now before courier
    match courier.limits.filter now e with
    | none => l.offer e .limited
    | some kept =>
      let r := emitter.enqueue (pace.sub 0) kept
      (l.deliver now r.batches courier).offer e (.asked kept r.result)
  | _ => l

def turn (now : Instant) (t : Emitter.Turn) (p : Transport) (l : Ledger) : Ledger :=
  match p.carrier with
  | .queued courier emitter => l.deliver now (emitter.turn t).1 courier
  | _ => l

def flush (now : Instant) (pace : Emitter.Pace) (p : Transport) (l : Ledger) : Ledger :=
  match p.carrier with
  | .queued courier emitter => l.deliver now (emitter.flush pace).batches courier
  | _ => l

/-- A ledger of a transport with a worker to which these envelopes were handed, and which has made
these requests. -/
structure Right (l : Ledger) (offered requests : List Envelope) : Prop where
  /-- Every envelope that was handed over has an entry. -/
  offered : l.offers.map Prod.fst = offered
  /-- One that was turned away was so by a limit or for want of room. -/
  full : ∀ x ∈ l.offers, ∀ kept answer, x.2 = .asked kept answer →
    answer = .accepted ∨ ∃ n, answer = .full n
  given : l.given = requests
  /-- In a batch that no request panics over, every envelope gets its attempt. -/
  calm : ∀ batch ∈ l.batches, (∀ x ∈ batch, x.2.panics = false) → ∀ x ∈ batch, x.2 ≠ .lost

theorem right_new : Right empty [] [] := ⟨rfl, nofun, rfl, nofun⟩

theorem Right.offer {l : Ledger} {offered requests : List Envelope} (h : Right l offered requests)
    (e : Envelope) {a : Admission}
    (full : ∀ kept answer, a = .asked kept answer →
      answer = .accepted ∨ ∃ n, answer = .full n) :
    Right (l.offer e a) (offered ++ [e]) requests := by
  refine ⟨?_, ?_, h.given, h.calm⟩
  · rw [Ledger.offer, List.map_append, h.offered]
    rfl
  · intro x hx
    rcases List.mem_append.mp hx with hx | hx
    · exact h.full x hx
    · rw [List.mem_singleton.mp hx]
      exact full

theorem Right.deliver {l : Ledger} {offered : List Envelope} {c : Courier}
    (h : Right l offered c.requests) (now : Instant) (batches : List (List Envelope)) :
    Right (l.deliver now batches c) offered (deliverBatches now batches c).requests := by
  refine ⟨h.offered, h.full, ?_, ?_⟩
  · rw [deliverBatches_requests, ← h.given, Ledger.deliver, Ledger.given, List.flatten_append,
      List.filterMap_append]
    rfl
  · intro batch hb
    rcases List.mem_append.mp hb with hb | hb
    · exact h.calm batch hb
    · obtain ⟨es, c, rfl⟩ := fates_mem hb
      exact Courier.none_lost_of_calm

/-- A ledger of a transport whose worker is at work. -/
structure Keeps (l : Ledger) (offered : List Envelope) (c : Courier) (e : Emitter Envelope) :
    Prop where
  right : Right l offered c.requests
  live : e.Live l.letIn (l.batches.map (List.map Prod.fst))

theorem Keeps.works {l : Ledger} {offered : List Envelope} {c : Courier} {e e' : Emitter Envelope}
    {batches : List (List Envelope)} (k : Keeps l offered c e) (now : Instant)
    (live : ∀ {accepted before}, e.Live accepted before →
      e'.Live accepted (before ++ batches)) :
    Keeps (l.deliver now batches c) offered (deliverBatches now batches c) e' := by
  refine ⟨k.right.deliver now batches, ?_⟩
  have after := live k.live
  rw [Ledger.deliver, List.map_append, fates_envelopes]
  exact after

theorem Keeps.limited {l : Ledger} {offered : List Envelope} {c : Courier} {em : Emitter Envelope}
    (k : Keeps l offered c em) (e : Envelope) :
    Keeps (l.offer e .limited) (offered ++ [e]) c em := by
  refine ⟨k.right.offer e nofun, ?_⟩
  have same : (l.offer e .limited).letIn = l.letIn := by
    rw [letIn, offer, List.filterMap_append]
    exact List.append_nil _
  rw [same]
  exact k.live

theorem Keeps.asked {l : Ledger} {offered : List Envelope} {c : Courier} {em : Emitter Envelope}
    (k : Keeps l offered c em) (now : Instant) (pace : Emitter.Pace) (e kept : Envelope) :
    let r := em.enqueue pace kept
    Keeps ((l.deliver now r.batches c).offer e (.asked kept r.result)) (offered ++ [e])
      (deliverBatches now r.batches c) r.emitter := by
  intro r
  have answer : r.result = .accepted ∨ ∃ n, r.result = .full n :=
    (k.live.serving.enqueue pace kept).2
  refine ⟨(k.right.deliver now r.batches).offer e ?_, ?_⟩
  · rintro _ _ ⟨⟩
    exact answer
  · have live := k.live.enqueue pace kept
    have letIn : ((l.deliver now r.batches c).offer e (.asked kept r.result)).letIn =
        l.letIn ++ if r.result.isAccepted then [kept] else [] := by
      rw [Ledger.letIn, offer, List.filterMap_append]
      cases h : r.result.isAccepted <;> simp [Admission.letIn?, h, Ledger.letIn, Ledger.deliver]
    rw [letIn]
    show Emitter.Live r.emitter _ ((l.batches ++ fates now r.batches c).map (List.map Prod.fst))
    rw [List.map_append, fates_envelopes]
    exact live

/-- A ledger of a transport with a worker that has nothing left to deliver: the envelopes that were
let in were delivered, in their order and each once. -/
structure Settled (l : Ledger) (p : Transport) : Prop extends Right l p.offered p.requests where
  delivered : l.batches.flatten.map Prod.fst = l.letIn

end Ledger

/-! ### Whole transports -/

/-- A transport with its ledger. -/
structure Audit where
  transport : Transport
  ledger : Ledger

namespace Audit

def new (s : Settings) (kind : TransportKind) : Audit := ⟨.new s kind, .empty⟩

def send (now : Instant) (pace : Emitter.Pace) (e : Envelope) (a : Audit) : Audit :=
  ⟨(a.transport.send now pace e).transport, a.ledger.send now pace e a.transport⟩

def turn (now : Instant) (t : Emitter.Turn) (a : Audit) : Audit :=
  ⟨a.transport.turn now t, a.ledger.turn now t a.transport⟩

def flush (now : Instant) (pace : Emitter.Pace) (a : Audit) : Audit :=
  ⟨(a.transport.flush now pace).2, a.ledger.flush now pace a.transport⟩

/-- The ledger of a transport that has a worker is kept well. -/
def Holds (a : Audit) : Prop :=
  ∀ c e, a.transport.carrier = .queued c e → a.ledger.Keeps a.transport.offered c e

theorem holds_new (s : Settings) (kind : TransportKind) : (new s kind).Holds := by
  intro c e queued
  cases kind with
  | collecting | discarding | immediate => cases queued
  | queued r =>
    cases queued
    exact ⟨Ledger.right_new, Emitter.live_new s.transportConfig⟩

theorem Holds.send {a : Audit} (h : a.Holds) (now : Instant) (pace : Emitter.Pace)
    (e : Envelope) : (a.send now pace e).Holds := by
  obtain ⟨⟨offered, carrier⟩, l⟩ := a
  cases carrier with
  | collecting | discarding =>
    intro c em queued
    cases queued
  | immediate c closed =>
    intro c em queued
    cases closed <;> cases queued
  | queued c em =>
    -- the worker goes on first, and the limits are those that it leaves
    have k := (h c em rfl).works now fun live => live.turn pace.turn
    unfold Audit.send Ledger.send Transport.send
    dsimp only at k ⊢
    generalize deliverBatches now (em.turn pace.turn).1 c = c₁ at k
    cases c₁.limits.filter now e with
    | none =>
      rintro _ _ ⟨⟩
      exact k.limited e
    | some kept =>
      rintro _ _ ⟨⟩
      exact k.asked now (pace.sub 0) e kept

theorem Holds.turn {a : Audit} (h : a.Holds) (now : Instant) (t : Emitter.Turn) :
    (a.turn now t).Holds := by
  obtain ⟨⟨offered, carrier⟩, l⟩ := a
  cases carrier with
  | collecting | discarding | immediate =>
    intro c em queued
    cases queued
  | queued c em =>
    rintro _ _ ⟨⟩
    exact (h c em rfl).works now fun live => live.turn t

theorem Holds.flush {a : Audit} (h : a.Holds) (now : Instant) (pace : Emitter.Pace) :
    (a.flush now pace).Holds := by
  obtain ⟨⟨offered, carrier⟩, l⟩ := a
  cases carrier with
  | collecting | discarding | immediate =>
    intro c em queued
    cases queued
  | queued c em =>
    rintro _ _ ⟨⟩
    exact (h c em rfl).works now fun live => (live.flush pace).1

/-- A flush that succeeds settles a transport with a worker. -/
theorem Holds.settled {a : Audit} (h : a.Holds) {now : Instant} {pace : Emitter.Pace}
    (done : (a.transport.flush now pace).1 = true) {c : Courier} {em : Emitter Envelope}
    (queued : (a.flush now pace).transport.carrier = .queued c em) :
    (a.flush now pace).ledger.Settled (a.flush now pace).transport := by
  obtain ⟨⟨offered, carrier⟩, l⟩ := a
  cases carrier with
  | collecting | discarding | immediate => cases queued
  | queued c em =>
    have k := h c em rfl
    refine ⟨k.right.deliver now (em.flush pace).batches, ?_⟩
    have all := (k.live.flush pace).2 done
    show ((l.batches ++ fates now (em.flush pace).batches c).flatten.map Prod.fst) = l.letIn
    rw [List.map_flatten, List.map_append, fates_envelopes]
    exact all

end Audit

/-! ### What was handed over -/

theorem offered_send (now : Instant) (pace : Emitter.Pace) (e : Envelope) (p : Transport) :
    (p.send now pace e).transport.offered = p.offered ++ [e] := by
  obtain ⟨offered, carrier⟩ := p
  cases carrier with
  | collecting | discarding => rfl
  | immediate c closed => cases closed <;> rfl
  | queued c em =>
    unfold send
    dsimp only
    split <;> rfl

theorem offered_turn (now : Instant) (t : Emitter.Turn) (p : Transport) :
    (turn now t p).offered = p.offered := by
  unfold turn
  split <;> rfl

theorem offered_flush (now : Instant) (pace : Emitter.Pace) (p : Transport) :
    (p.flush now pace).2.offered = p.offered := by
  unfold flush
  split <;> rfl

end Transport

end Telemetry
