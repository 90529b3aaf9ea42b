import Telemetry.Proofs.Transport.Ledger
import Telemetry.Proofs.Transport.Operations

/-! Each envelope that was let in gets its attempt, once. A flush that succeeds says so of all that
were let in before it, with two exceptions. A panic over one envelope takes the rest of its batch
with it, and after a shutdown that has given up a flush says nothing. -/

namespace Telemetry

/-! ### Batches -/

/-- An attempt was made for each of these envelopes, and none panicked. -/
def Clean (batch : List (Envelope × Fate)) : Prop :=
  ∀ x ∈ batch, x.2 ≠ .lost ∧ x.2.panics = false

/-- Of the envelopes of a batch, those behind a panic are lost, and no others. -/
def Contained (batch : List (Envelope × Fate)) : Prop :=
  ∀ before x after, batch = before ++ x :: after →
    (x.2 = .lost ↔ ∃ y ∈ before, y.2.panics = true)

theorem clean_nil : Clean [] := nofun

theorem Clean.append {xs ys : List (Envelope × Fate)} (h : Clean xs) (h' : Clean ys) :
    Clean (xs ++ ys) := by
  intro x hx
  rcases List.mem_append.mp hx with hx | hx
  · exact h x hx
  · exact h' x hx

theorem clean_singleton {x : Envelope × Fate} (made : x.2 ≠ .lost) (calm : x.2.panics = false) :
    Clean [x] := by
  intro y hy
  rw [List.mem_singleton.mp hy]
  exact ⟨made, calm⟩

theorem Clean.contained {batch : List (Envelope × Fate)} (clean : Clean batch) :
    Contained batch := by
  rintro before x after rfl
  have made := (clean x (by simp)).1
  refine ⟨fun lost => absurd lost made, ?_⟩
  rintro ⟨y, hy, panics⟩
  have calm := (clean y (List.mem_append_left _ hy)).2
  rw [panics] at calm
  cases calm

theorem Fate.lost_calm {f : Fate} (h : f.panics = true) : f ≠ .lost := by
  rintro rfl
  cases h

/-- A batch that a panic ended. -/
theorem Clean.contained_panic {made lost : List (Envelope × Fate)} {x : Envelope × Fate}
    (clean : Clean made) (panics : x.2.panics = true) (rest : ∀ y ∈ lost, y.2 = .lost) :
    Contained (made ++ x :: lost) := by
  intro before y after split
  rcases List.append_eq_append_iff.mp split with ⟨more, rfl, behind⟩ | ⟨more, rfl, front⟩
  · cases more with
    | nil =>
      -- it is the one that panicked
      obtain ⟨rfl, -⟩ := List.cons.inj behind
      refine ⟨fun gone => absurd gone (Fate.lost_calm panics), ?_⟩
      rintro ⟨z, hz, hp⟩
      rw [List.append_nil] at hz
      rw [(clean z hz).2] at hp
      cases hp
    | cons z more =>
      obtain ⟨rfl, rfl⟩ := List.cons.inj behind
      have gone : y.2 = .lost := rest y (by simp)
      exact ⟨fun _ => ⟨x, by simp, panics⟩, fun _ => gone⟩
  · cases more with
    | nil =>
      obtain ⟨rfl, -⟩ := List.cons.inj front
      refine ⟨fun gone => absurd gone (Fate.lost_calm panics), ?_⟩
      rintro ⟨z, hz, hp⟩
      rw [(clean z (List.mem_append_left _ hz)).2] at hp
      cases hp
    | cons z more =>
      obtain ⟨rfl, -⟩ := List.cons.inj front
      exact clean.contained before y more rfl

/-- None of a batch is lost just if nothing stands behind a panic. -/
theorem Contained.none_lost_iff {batch : List (Envelope × Fate)} (contained : Contained batch) :
    (∀ x ∈ batch, x.2 ≠ .lost) ↔
      ∀ before x after, batch = before ++ x :: after → x.2.panics = true → after = [] := by
  constructor
  · rintro none before x after rfl panics
    cases after with
    | nil => rfl
    | cons y after =>
      have split : before ++ x :: y :: after = (before ++ [x]) ++ y :: after := by simp
      have gone := (contained _ y after split).mpr ⟨x, by simp, panics⟩
      exact absurd gone (none y (by simp))
  · intro last x hx gone
    obtain ⟨before, after, rfl⟩ := List.append_of_mem hx
    obtain ⟨y, hy, panics⟩ := (contained before x after rfl).mp gone
    obtain ⟨front, middle, rfl⟩ := List.append_of_mem hy
    have empty := last front y (middle ++ x :: after) (by simp) panics
    simp at empty

namespace Courier

/-- A batch is delivered to its end, or up to a panic. -/
theorem fates_cases (now : Instant) (es : List Envelope) (c : Courier) :
    Clean (c.fates now es) ∨ ∃ made x lost, c.fates now es = made ++ x :: lost ∧ Clean made ∧
      x.2.panics = true ∧ ∀ y ∈ lost, y.2 = Fate.lost := by
  induction es generalizing c with
  | nil => exact .inl clean_nil
  | cons e es ih =>
    rw [fates]
    by_cases panics : (c.fate now e).panics = true
    · rw [if_pos panics]
      refine .inr ⟨[], _, _, rfl, clean_nil, panics, fun y hy => ?_⟩
      obtain ⟨e', -, rfl⟩ := List.mem_map.mp hy
      rfl
    · rw [if_neg panics]
      have first : Clean [(e, c.fate now e)] :=
        clean_singleton (fate_ne_lost now e c) (by simpa using panics)
      rcases ih (c.deliver now e).2 with clean | ⟨made, x, lost, split, clean, rest⟩
      · exact .inl (first.append clean)
      · refine .inr ⟨(e, c.fate now e) :: made, x, lost, ?_, first.append clean, rest⟩
        rw [split]
        rfl

theorem contained_fates (now : Instant) (es : List Envelope) (c : Courier) :
    Contained (c.fates now es) := by
  rcases fates_cases now es c with clean | ⟨made, x, lost, split, clean, panics, rest⟩
  · exact clean.contained
  · rw [split]
    exact clean.contained_panic panics rest

end Courier

namespace Transport

/-! ### Books -/

/-- What became of the envelopes that were let in, batch by batch: each has one entry, in the order
in which they were let in, and each request belongs to one entry, in the same order. -/
structure Attempted (book : List (List (Envelope × Fate))) (letIn requests : List Envelope) :
    Prop where
  each : book.flatten.map Prod.fst = letIn
  calls : book.flatten.filterMap (fun x => x.2.given?) = requests
  contained : ∀ batch ∈ book, Contained batch

/-- Every envelope that was let in got its attempt just if each panic came last in its batch. -/
theorem Attempted.none_lost_iff {book : List (List (Envelope × Fate))}
    {letIn requests : List Envelope} (a : Attempted book letIn requests) :
    (∀ x ∈ book.flatten, x.2 ≠ .lost) ↔
      ∀ batch ∈ book, ∀ before x after, batch = before ++ x :: after →
        x.2.panics = true → after = [] := by
  have batches : (∀ x ∈ book.flatten, x.2 ≠ .lost) ↔ ∀ batch ∈ book, ∀ x ∈ batch, x.2 ≠ .lost :=
    List.forall_mem_flatten
  rw [batches]
  exact forall₂_congr fun batch hb => (a.contained batch hb).none_lost_iff

namespace Ledger

/-- Notes what a transport does while it is shut down. -/
def shutdown (now : Instant) (pace : Emitter.Pace) (p : Transport) (l : Ledger) : Ledger :=
  match p.carrier with
  | .queued courier emitter => l.deliver now (emitter.shutdown pace).batches courier
  | _ => l

theorem letIn_offer (e : Envelope) (a : Admission) (l : Ledger) :
    (l.offer e a).letIn = l.letIn ++ a.letIn?.toList := by
  rw [letIn, offer, List.filterMap_append]
  cases h : a.letIn? <;> simp [h, letIn]

theorem batches_deliver (now : Instant) (batches : List (List Envelope)) (c : Courier)
    (l : Ledger) :
    (l.deliver now batches c).batches.map (List.map Prod.fst) =
      l.batches.map (List.map Prod.fst) ++ batches := by
  rw [deliver, List.map_append, fates_envelopes]

/-- A ledger whose batches are those that the courier delivered. -/
structure Booked (l : Ledger) (c : Courier) : Prop where
  given : l.given = c.requests
  contained : ∀ batch ∈ l.batches, Contained batch

theorem Booked.deliver {l : Ledger} {c : Courier} (b : l.Booked c) (now : Instant)
    (batches : List (List Envelope)) :
    (l.deliver now batches c).Booked (deliverBatches now batches c) := by
  refine ⟨?_, fun batch hb => ?_⟩
  · rw [deliverBatches_requests, ← b.given, Ledger.deliver, Ledger.given, List.flatten_append,
      List.filterMap_append]
    rfl
  · rcases List.mem_append.mp hb with hb | hb
    · exact b.contained batch hb
    · obtain ⟨es, c', rfl⟩ := fates_mem hb
      exact Courier.contained_fates now es c'

/-- What the ledger knows of an emitter, whose shutdown may have given up. -/
def line (l : Ledger) (e : Emitter Envelope) (gaveUp : Bool) : Emitter.Owned Envelope :=
  ⟨e, l.letIn, l.batches.map (List.map Prod.fst), gaveUp⟩

/-- A ledger of a transport whose worker may have been shut down. -/
structure Follows (l : Ledger) (c : Courier) (e : Emitter Envelope) (gaveUp : Bool) : Prop where
  booked : l.Booked c
  line : (l.line e gaveUp).Holds

theorem Follows.deliver {l : Ledger} {c : Courier} {e e' : Emitter Envelope} {gaveUp gaveUp' : Bool}
    (f : l.Follows c e gaveUp) (now : Instant) {batches : List (List Envelope)}
    (line : Emitter.Owned.Holds
      ⟨e', l.letIn, l.batches.map (List.map Prod.fst) ++ batches, gaveUp'⟩) :
    (l.deliver now batches c).Follows (deliverBatches now batches c) e' gaveUp' := by
  refine ⟨f.booked.deliver now batches, ?_⟩
  rw [Ledger.line, batches_deliver]
  exact line

theorem Follows.limited {l : Ledger} {c : Courier} {em : Emitter Envelope} {gaveUp : Bool}
    (f : l.Follows c em gaveUp) (e : Envelope) : (l.offer e .limited).Follows c em gaveUp := by
  refine ⟨⟨f.booked.given, f.booked.contained⟩, ?_⟩
  rw [Ledger.line, letIn_offer, Admission.letIn?, Option.toList_none, List.append_nil]
  exact f.line

theorem Follows.asked {l : Ledger} {c : Courier} {em : Emitter Envelope} {gaveUp : Bool}
    (f : l.Follows c em gaveUp) (now : Instant) (pace : Emitter.Pace) (e kept : Envelope) :
    let r := em.enqueue pace kept
    ((l.deliver now r.batches c).offer e (.asked kept r.result)).Follows
      (deliverBatches now r.batches c) r.emitter gaveUp := by
  intro r
  have booked := f.booked.deliver now r.batches
  refine ⟨⟨booked.given, booked.contained⟩, ?_⟩
  have letIn : (l.offer e (.asked kept r.result)).letIn =
      l.letIn ++ if r.result.isAccepted then [kept] else [] := by
    rw [letIn_offer, Admission.letIn?]
    cases r.result.isAccepted <;> rfl
  show Emitter.Owned.Holds
    ⟨_, (l.offer e (.asked kept r.result)).letIn, (l.deliver now r.batches c).batches.map _, gaveUp⟩
  rw [batches_deliver, letIn]
  exact f.line.enqueue pace kept

end Ledger

def Audit.shutdown (now : Instant) (pace : Emitter.Pace) (a : Audit) : Audit :=
  ⟨(a.transport.shutdown now pace).2.2, a.ledger.shutdown now pace a.transport⟩

/-! ### One caller -/

/-- A transport with a worker as its only caller knows it. -/
structure Owned where
  audit : Audit
  /-- Whether a shutdown has given up. -/
  gaveUp : Bool

namespace Owned

def new (s : Settings) (r : Requester) : Owned := ⟨.new s (.queued r), false⟩

def run (x : Owned) : History.Operation → Owned
  | .send now pace e => { x with audit := x.audit.send now pace e }
  | .turn now t => { x with audit := x.audit.turn now t }
  | .flush now pace => { x with audit := x.audit.flush now pace }
  | .shutdown now pace =>
    ⟨x.audit.shutdown now pace, x.gaveUp || !(x.audit.transport.shutdown now pace).1⟩

def after (s : Settings) (r : Requester) (os : List History.Operation) : Owned :=
  os.foldl run (new s r)

theorem transport_run (x : Owned) (o : History.Operation) :
    (x.run o).audit.transport = o.run x.audit.transport := by
  cases o <;> rfl

theorem transport_after (s : Settings) (r : Requester) (os : List History.Operation) :
    (after s r os).audit.transport = os.foldl History.Operation.run (.new s (.queued r)) := by
  have more : ∀ (os : List History.Operation) (x : Owned),
      (os.foldl run x).audit.transport = os.foldl History.Operation.run x.audit.transport := by
    intro os
    induction os with
    | nil => exact fun _ => rfl
    | cons o os ih =>
      intro x
      rw [List.foldl_cons, List.foldl_cons, ih, transport_run]
  exact more os (new s r)

def Holds (x : Owned) : Prop :=
  ∃ c e, x.audit.transport.carrier = .queued c e ∧ x.audit.ledger.Follows c e x.gaveUp

theorem holds_new (s : Settings) (r : Requester) : (new s r).Holds :=
  ⟨_, _, rfl, ⟨⟨rfl, nofun⟩, (Emitter.Owned.holds_new s.transportConfig).start⟩⟩

theorem Holds.run {x : Owned} (h : x.Holds) (o : History.Operation) : (x.run o).Holds := by
  obtain ⟨c, e, carrier, f⟩ := h
  obtain ⟨⟨⟨offered, _⟩, l⟩, gaveUp⟩ := x
  cases carrier
  cases o with
  | turn now t => exact ⟨_, _, rfl, f.deliver now (f.line.work t)⟩
  | flush now pace => exact ⟨_, _, rfl, f.deliver now (f.line.flush pace)⟩
  | shutdown now pace => exact ⟨_, _, rfl, f.deliver now (f.line.shutdown pace)⟩
  | send now pace a =>
    -- the worker goes on first, and the limits are those that it leaves
    have f₁ := f.deliver now (f.line.work pace.turn)
    simp only [Holds, Owned.run, Audit.send, Transport.send, Ledger.send] at f₁ ⊢
    change (l.deliver now (e.turn pace.turn).1 c).Follows
      (deliverBatches now (e.turn pace.turn).1 c) (e.turn pace.turn).2 gaveUp at f₁
    cases (deliverBatches now (e.turn pace.turn).1 c).limits.filter now a with
    | none => exact ⟨_, _, rfl, f₁.limited a⟩
    | some kept => exact ⟨_, _, rfl, f₁.asked now (pace.sub 0) a kept⟩

theorem holds_after (s : Settings) (r : Requester) (os : List History.Operation) :
    (after s r os).Holds :=
  List.foldlRecOn os run (holds_new s r) fun _ h o _ => h.run o

/-- A flush that succeeds, if no shutdown has given up, leaves nothing between admission and
delivery. -/
theorem Holds.flushed {x : Owned} (h : x.Holds) {now : Instant} {pace : Emitter.Pace}
    (kept : x.gaveUp = false) (done : (x.audit.transport.flush now pace).1 = true) :
    let y := x.run (.flush now pace)
    Attempted y.audit.ledger.batches y.audit.ledger.letIn y.audit.transport.requests := by
  obtain ⟨c, e, carrier, f⟩ := h
  obtain ⟨⟨⟨offered, _⟩, l⟩, gaveUp⟩ := x
  cases carrier
  obtain rfl : gaveUp = false := kept
  have all : (l.batches.map (List.map Prod.fst) ++ (e.flush pace).batches).flatten = l.letIn := by
    cases accepting : e.accepting with
    | true => exact (f.line.served.flush pace).2 accepting done
    | false =>
      rw [Emitter.flush_closed accepting, List.append_nil]
      exact f.line.closed accepting rfl
  have booked := f.booked.deliver now (e.flush pace).batches
  refine ⟨?_, booked.given, booked.contained⟩
  show (l.deliver now (e.flush pace).batches c).batches.flatten.map Prod.fst = l.letIn
  rw [List.map_flatten, Ledger.batches_deliver]
  exact all

end Owned

end Transport

end Telemetry
