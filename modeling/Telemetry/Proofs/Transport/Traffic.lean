import Telemetry.Proofs.Transport.Attempts

/-! Attempts while others go on. Any number of callers put envelopes and requests into the queue of
a transport, at any time; the worker delivers its batches one envelope after the other, each at its
own time, and everything else may happen between two deliveries. -/

namespace Telemetry.Transport

open Emitter (items)

/-! ### The delivery of batches -/

/-- Where the delivery of a batch has got, and what became of the batches before it. -/
structure Counter where
  limits : RateLimits
  /-- What of the batch is still to be delivered. -/
  left : List Envelope
  /-- The envelope whose call has not ended, and what the call is for. -/
  asking : Option (Envelope × Envelope)
  /-- What became of the others of the batch. -/
  batch : List (Envelope × Fate)
  book : List (List (Envelope × Fate))
  /-- What calls were made for, the first one first. -/
  calls : List Envelope

namespace Counter

def empty : Counter := ⟨.none, [], none, [], [], []⟩

def isFree (c : Counter) : Bool := c.asking.isNone && c.left.isEmpty

/-- Takes the next envelope of the batch: calls with what the limits leave of it, if anything. -/
def deliver (now : Instant) (c : Counter) : Counter :=
  match c.asking, c.left with
  | none, e :: rest =>
    match c.limits.filter now e with
    | none => { c with left := rest, batch := c.batch ++ [(e, .limited)] }
    | some kept => { c with left := rest, asking := some (e, kept), calls := c.calls ++ [kept] }
  | _, _ => c

/-- The end of the call; a panic ends the delivery of the batch. -/
def answer (now : Instant) (result : RequestResult) (c : Counter) : Counter :=
  match c.asking with
  | none => c
  | some (e, kept) =>
    let lost := if result = .panicked then c.left else []
    { c with
      limits := Courier.learn now c.limits result
      asking := none
      left := if result = .panicked then [] else c.left
      batch := c.batch ++ (e, .given kept result) :: lost.map fun e => (e, .lost) }

/-- Turns to a new batch. -/
def turnTo (batch : List Envelope) (c : Counter) : Counter := { c with left := batch }

/-- Is done with the batch. -/
def close (c : Counter) : Counter := { c with book := c.book ++ [c.batch], batch := [] }

/-- What became of envelopes so far, the first one first. -/
def entries (c : Counter) : List (Envelope × Fate) := c.book.flatten ++ c.batch

/-- The invariant of the delivery of a batch. -/
structure Serves (c : Counter) (hand : List Envelope) : Prop where
  split : c.batch.map Prod.fst ++ (c.asking.toList.map Prod.fst ++ c.left) = hand
  calls : c.calls = c.entries.filterMap (fun x => x.2.given?) ++ c.asking.toList.map Prod.snd
  contained : ∀ batch ∈ c.book, Contained batch
  batch : Clean c.batch ∨ c.asking = none ∧ c.left = [] ∧ Contained c.batch

theorem serves_empty : empty.Serves [] := ⟨rfl, rfl, nofun, .inl clean_nil⟩

variable {c : Counter} {hand : List Envelope}

theorem isFree_iff : c.isFree = true ↔ c.asking = none ∧ c.left = [] := by
  simp [isFree]

/-- As long as something is to be delivered, nothing panicked. -/
theorem Serves.clean (s : c.Serves hand) (busy : c.asking ≠ none ∨ c.left ≠ []) :
    Clean c.batch := by
  rcases s.batch with clean | ⟨asking, left, -⟩
  · exact clean
  · rcases busy with busy | busy
    · exact absurd asking busy
    · exact absurd left busy

theorem Serves.deliver (s : c.Serves hand) (now : Instant) : (c.deliver now).Serves hand := by
  obtain ⟨limits, left, asking, batch, book, calls⟩ := c
  unfold Counter.deliver
  split
  · next e rest hasking hleft =>
    dsimp only at hasking hleft
    subst hasking hleft
    have clean := s.clean (.inr (List.cons_ne_nil e rest))
    obtain ⟨split, hcalls, contained, -⟩ := s
    dsimp only [entries] at split hcalls clean contained
    split
    · refine ⟨?_, ?_, contained, .inl (clean.append (clean_singleton (by simp) rfl))⟩
      · simpa using split
      · simpa [entries, Fate.given?] using hcalls
    · refine ⟨?_, ?_, contained, .inl clean⟩
      · simpa using split
      · subst hcalls
        simp [entries]
  · exact s

theorem Serves.answer (s : c.Serves hand) (now : Instant) (result : RequestResult) :
    (c.answer now result).Serves hand := by
  obtain ⟨limits, left, asking, batch, book, calls⟩ := c
  cases asking with
  | none => exact s
  | some asked =>
    obtain ⟨e, kept⟩ := asked
    have clean := s.clean (.inl nofun)
    obtain ⟨split, hcalls, contained, -⟩ := s
    dsimp only [entries] at split hcalls clean contained
    have lost : ∀ es : List Envelope,
        (es.map fun e => (e, Fate.lost)).filterMap (fun x => x.2.given?) = [] := by
      intro es
      simp [Fate.given?]
    by_cases panicked : result = .panicked
    · simp only [Counter.answer, panicked, if_true]
      refine ⟨?_, ?_, contained, .inr ⟨rfl, rfl, clean.contained_panic rfl ?_⟩⟩
      · simpa [Function.comp_def] using split
      · simpa [entries, Fate.given?, lost] using hcalls
      · intro y hy
        obtain ⟨e', -, rfl⟩ := List.mem_map.mp hy
        rfl
    · have calm : (Fate.given kept result).panics = false := by
        cases result with
        | panicked => exact absurd rfl panicked
        | answered | failed => rfl
      simp only [Counter.answer, if_neg panicked, List.map_nil]
      refine ⟨?_, ?_, contained, .inl (clean.append (clean_singleton (by simp) calm))⟩
      · simpa using split
      · simpa [entries, Fate.given?] using hcalls

theorem book_deliver (now : Instant) (c : Counter) : (c.deliver now).book = c.book := by
  unfold Counter.deliver
  split
  · split <;> rfl
  · rfl

theorem book_answer (now : Instant) (result : RequestResult) (c : Counter) :
    (c.answer now result).book = c.book := by
  unfold Counter.answer
  split <;> rfl

theorem Serves.turnTo (s : c.Serves []) (batch : List Envelope) :
    (c.turnTo batch).Serves batch := by
  obtain ⟨nothing, rest⟩ := List.append_eq_nil_iff.mp s.split
  obtain ⟨asking, -⟩ := List.append_eq_nil_iff.mp rest
  have empty : c.batch = [] := List.map_eq_nil_iff.mp nothing
  refine ⟨?_, s.calls, s.contained, .inl ?_⟩
  · simp only [Counter.turnTo, nothing, asking, List.nil_append]
  · rw [Counter.turnTo, empty]
    exact clean_nil

theorem Serves.close (s : c.Serves hand) (free : c.isFree = true) : c.close.Serves [] := by
  obtain ⟨asking, left⟩ := isFree_iff.mp free
  obtain ⟨-, calls, contained, batch⟩ := s
  refine ⟨?_, ?_, fun b hb => ?_, .inl clean_nil⟩
  · simp [Counter.close, asking, left]
  · simpa [Counter.close, entries] using calls
  · rcases List.mem_append.mp hb with hb | hb
    · exact contained b hb
    · rw [List.mem_singleton.mp hb]
      rcases batch with clean | ⟨-, -, contained⟩
      · exact clean.contained
      · exact contained

/-- The batch that was delivered. -/
theorem Serves.delivered (s : c.Serves hand) (free : c.isFree = true) :
    c.batch.map Prod.fst = hand := by
  obtain ⟨asking, left⟩ := isFree_iff.mp free
  have split := s.split
  rw [asking, left] at split
  simpa using split

end Counter

/-! ### Moves -/

/-- What happens to the queue of a transport, and to what its worker hands on. -/
structure Traffic where
  history : Emitter.History Envelope
  counter : Counter

namespace Traffic

inductive Move where
  /-- Something happens to the queue. A step of the worker waits for the deliveries. -/
  | queue (m : Emitter.Move Envelope)
  | deliver (now : Instant)
  | answer (now : Instant) (result : RequestResult)

def advance (m : Emitter.Move Envelope) (t : Traffic) : Traffic :=
  let next := t.history.move m
  { history := next
    counter :=
      if !t.history.emitter.isCalling then t.counter.turnTo next.emitter.inHand.flatten
      else if next.emitter.isCalling then t.counter
      else t.counter.close }

def move (t : Traffic) : Move → Traffic
  | .queue (.work panics) => if t.counter.isFree then t.advance (.work panics) else t
  | .queue m => t.advance m
  | .deliver now => { t with counter := t.counter.deliver now }
  | .answer now result => { t with counter := t.counter.answer now result }

def start (config : BatchConfig) : Traffic := ⟨.start config, .empty⟩

def after (config : BatchConfig) (moves : List Move) : Traffic := moves.foldl move (start config)

structure Holds (t : Traffic) : Prop where
  history : t.history.Holds
  taken : t.history.taken = t.counter.book.map (List.map Prod.fst)
  counter : t.counter.Serves t.history.emitter.inHand.flatten

theorem holds_start (config : BatchConfig) : (start config).Holds :=
  ⟨Emitter.History.holds_start config, rfl, Counter.serves_empty⟩

theorem advance_waiting {t : Traffic} (waiting : t.history.emitter.isCalling = false)
    (m : Emitter.Move Envelope) :
    t.advance m =
      ⟨t.history.move m, t.counter.turnTo (t.history.move m).emitter.inHand.flatten⟩ := by
  simp only [Traffic.advance, waiting, Bool.not_false, if_true]

theorem advance_calling {t : Traffic} (calling : t.history.emitter.isCalling = true)
    (m : Emitter.Move Envelope) :
    t.advance m =
      ⟨t.history.move m,
        if (t.history.move m).emitter.isCalling then t.counter else t.counter.close⟩ := by
  simp only [Traffic.advance, calling, Bool.not_true, Bool.false_eq_true, if_false]

/-- A move of the queue, which ends a call only when everything is delivered. -/
theorem Holds.advance {t : Traffic} (i : t.Holds) {m : Emitter.Move Envelope}
    (free : ∀ panics, m = .work panics → t.counter.isFree = true) : (t.advance m).Holds := by
  cases calling : t.history.emitter.isCalling with
  | false =>
    have nothing := Emitter.isCalling_eq_false_iff.mp calling
    have counter := i.counter
    rw [nothing] at counter
    rw [advance_waiting calling]
    refine ⟨i.history.move m, ?_, counter.turnTo _⟩
    rw [Emitter.History.taken_move calling m]
    exact i.taken
  | true =>
    obtain ⟨handed, ended⟩ := History.handed_of_calling calling m
    rw [advance_calling calling]
    cases still : (t.history.move m).emitter.isCalling with
    | true =>
      -- no call has ended, and the same batch is in hand
      have other : ∀ panics, m ≠ .work panics := by
        rintro panics rfl
        have ended := (Emitter.History.handed_work calling panics).2
        rw [show (t.history.work panics).emitter.isCalling = true from still] at ended
        cases ended
      obtain ⟨calls, worker⟩ := Emitter.History.worker_move calling other
      refine ⟨i.history.move m, ?_, ?_⟩
      · rw [Emitter.History.taken, calls]
        exact i.taken
      · rw [Emitter.inHand, worker]
        exact i.counter
    | false =>
      obtain ⟨panics, work⟩ := ended still
      have free := free panics work
      have nothing := Emitter.isCalling_eq_false_iff.mp still
      have delivered := i.counter.delivered free
      refine ⟨i.history.move m, ?_, ?_⟩
      · obtain ⟨batch, hand⟩ := Emitter.inHand_of_isCalling calling
        rw [hand, List.flatten_singleton] at delivered
        rw [Emitter.History.handed, Emitter.History.handed, nothing, hand, List.append_nil,
          i.taken, ← delivered] at handed
        show (t.history.move m).taken = (t.counter.book ++ [t.counter.batch]).map _
        rw [handed, List.map_append]
        rfl
      · show t.counter.close.Serves (t.history.move m).emitter.inHand.flatten
        rw [nothing]
        exact i.counter.close free

theorem Holds.move {t : Traffic} (i : t.Holds) (m : Move) : (t.move m).Holds := by
  cases m with
  | deliver now =>
    refine ⟨i.history, ?_, i.counter.deliver now⟩
    show t.history.taken = (t.counter.deliver now).book.map _
    rw [Counter.book_deliver]
    exact i.taken
  | answer now result =>
    refine ⟨i.history, ?_, i.counter.answer now result⟩
    show t.history.taken = (t.counter.answer now result).book.map _
    rw [Counter.book_answer]
    exact i.taken
  | queue m =>
    cases m with
    | work panics =>
      simp only [Traffic.move]
      split
      · next free => exact i.advance fun _ _ => free
      · exact i
    | item | flush | shutdown | expire | leave | disconnect => exact i.advance nofun

theorem Holds.moves {t : Traffic} (i : t.Holds) (moves : List Move) :
    (moves.foldl Traffic.move t).Holds := by
  induction moves generalizing t with
  | nil => exact i
  | cons m moves ih => exact ih (i.move m)

theorem holds_after (config : BatchConfig) (moves : List Move) : (after config moves).Holds :=
  (holds_start config).moves moves

theorem sent_move (t : Traffic) (m : Move) :
    ∃ more, (t.move m).history.sent = t.history.sent ++ more := by
  have same : ∃ more, t.history.sent = t.history.sent ++ more := ⟨[], (List.append_nil _).symm⟩
  cases m with
  | deliver | answer => exact same
  | queue m =>
    have moved := t.history.sent_move m
    cases m with
    | work panics =>
      simp only [Traffic.move]
      split
      · exact moved
      · exact same
    | item | flush | shutdown | expire | leave | disconnect => exact moved

theorem sent_moves (t : Traffic) (moves : List Move) :
    ∃ more, (moves.foldl move t).history.sent = t.history.sent ++ more := by
  induction moves generalizing t with
  | nil => exact ⟨[], (List.append_nil _).symm⟩
  | cons m moves ih =>
    obtain ⟨more, first⟩ := t.sent_move m
    obtain ⟨rest, sent⟩ := ih (t.move m)
    refine ⟨more ++ rest, ?_⟩
    rw [List.foldl_cons, sent, first, List.append_assoc]

/-! ### Attempts -/

/-- What became of the envelopes that were let in, while more of them may be on their way: each
entry is for one of them, in their order, and each call for one entry or for the envelope that comes
next. -/
structure Accounts (t : Traffic) : Prop where
  each : t.counter.entries.map Prod.fst ++ t.counter.asking.toList.map Prod.fst <+:
    items t.history.sent
  calls : t.counter.calls = t.counter.entries.filterMap (fun x => x.2.given?) ++
    t.counter.asking.toList.map Prod.snd
  contained : ∀ batch ∈ t.counter.book, Contained batch

theorem Holds.accounts {t : Traffic} (i : t.Holds) : t.Accounts := by
  refine ⟨?_, i.counter.calls, i.counter.contained⟩
  have handed : t.history.handed.flatten =
      t.counter.entries.map Prod.fst ++ t.counter.asking.toList.map Prod.fst ++ t.counter.left := by
    rw [Emitter.History.handed, List.flatten_append, i.taken, ← i.counter.split, Counter.entries,
      List.map_append, List.map_flatten]
    simp only [List.append_assoc]
  exact (List.prefix_append _ t.counter.left).trans (handed ▸ i.history.handed_first)

/-- When a request is answered, every envelope that was in the queue before it has its entry. -/
theorem answered_attempts (config : BatchConfig) (moves later : List Move)
    {m : Emitter.Move Envelope} {task : Nat → Task Envelope} (asks : History.Asks m task)
    (request : ∀ t, (task t).ticket? = some t)
    (admits : (after config moves).history.admits = true)
    (answered : (after config moves).history.emitter.tickets ∈
      (after config (moves ++ .queue m :: later)).history.emitter.answered) :
    items (after config moves).history.sent <+:
      (after config (moves ++ .queue m :: later)).counter.book.flatten.map Prod.fst := by
  have i := holds_after config (moves ++ .queue m :: later)
  have same : after config (moves ++ .queue m :: later) =
      later.foldl move ((after config moves).move (.queue m)) := List.foldl_append ..
  generalize after config moves = t at admits answered same ⊢
  have asked : (t.move (.queue m)).history = t.history.ask task := by
    have advanced : (t.move (.queue m)).history = t.history.move m := by
      cases m with
      | work panics => exact absurd rfl (asks.quiet panics)
      | item | flush | shutdown | expire | leave | disconnect => rfl
    rw [advanced, asks.move, if_pos admits]
  obtain ⟨more, sent⟩ := sent_moves (t.move (.queue m)) later
  rw [← same, asked] at sent
  have split : (after config (moves ++ .queue m :: later)).history.sent =
      t.history.sent ++ task t.history.emitter.tickets :: more := by
    rw [sent, Emitter.History.ask, List.append_assoc]
    rfl
  have taken := i.history.accounted.answers _ _ _ _ split (request _) answered
  rw [i.taken, ← List.map_flatten] at taken
  exact taken

end Traffic

/-- When a flush succeeds, every envelope that was let in before it was delivered in its place,
once: a call was made with what the limits left of it, unless they left nothing or a call for an
envelope in front of it in its batch had panicked. This holds of one caller if no shutdown has given
up, and of any number of callers, at any time of each delivery, when the worker answers. -/
theorem attempts_at_flush (s : Settings) (r : Requester) :
    (∀ (os : List History.Operation) now pace, (Owned.after s r os).gaveUp = false →
      ((Owned.after s r os).audit.transport.flush now pace).1 = true →
      let x := (Owned.after s r os).run (.flush now pace)
      x.audit.transport =
          ((os.foldl History.Operation.run (.new s (.queued r))).flush now pace).2 ∧
        Attempted x.audit.ledger.batches x.audit.ledger.letIn x.audit.transport.requests) ∧
    ∀ moves (m : Emitter.Move Envelope) later, m = .flush ∨ m = .shutdown →
      let before := Traffic.after s.transportConfig moves
      let t := Traffic.after s.transportConfig (moves ++ .queue m :: later)
      before.history.admits = true →
      before.history.emitter.tickets ∈ t.history.emitter.answered →
      t.Accounts ∧ items before.history.sent <+: t.counter.book.flatten.map Prod.fst := by
  constructor
  · intro os now pace kept done x
    refine ⟨?_, (Owned.holds_after s r os).flushed kept done⟩
    rw [Owned.transport_run, Owned.transport_after]
    rfl
  · intro moves m later asks before t admits answered
    refine ⟨(Traffic.holds_after _ _).accounts, ?_⟩
    rcases asks with rfl | rfl
    · exact Traffic.answered_attempts _ moves later History.asks_flush (fun _ => rfl) admits
        answered
    · exact Traffic.answered_attempts _ moves later History.asks_shutdown (fun _ => rfl) admits
        answered

/-- The call for the first of three envelopes panics, so that the second one, of the same batch, is
lost, and the third one is not. -/
theorem attempts_at_flush_panic :
    let s : Settings := { Settings.default with transportBatchSize := 2 }
    let r : Requester := fun n _ => if n = 0 then .panicked else .failed .noDsn
    let idle : Emitter.Pace := fun _ => ⟨0, false, false⟩
    let busy : Emitter.Pace := fun _ => ⟨9, false, false⟩
    let e : Envelope := .ofItem (.logs [])
    let os : List History.Operation :=
      [.send .epoch idle e, .send .epoch idle e, .send .epoch busy e]
    let moves : List Traffic.Move := [.queue (.item e), .queue (.item e), .queue (.work false),
      .queue (.work false), .deliver .epoch, .answer .epoch .panicked, .queue (.work true),
      .queue (.item e)]
    let later : List Traffic.Move := [.queue (.work false), .queue (.work false),
      .queue (.work false), .deliver .epoch, .answer .epoch (.failed .noDsn), .queue (.work false)]
    ((Owned.after s r os).gaveUp = false ∧
      ((Owned.after s r os).audit.transport.flush .epoch busy).1 = true ∧
      let x := (Owned.after s r os).run (.flush .epoch busy)
      Attempted x.audit.ledger.batches x.audit.ledger.letIn x.audit.transport.requests ∧
        x.audit.ledger.letIn.length = 3 ∧ x.audit.transport.requests.length = 2) ∧
    let t := Traffic.after s.transportConfig (moves ++ .queue .flush :: later)
    t.Accounts ∧ t.history.emitter.answered = [0] ∧ t.counter.book.flatten.length = 3 ∧
      t.counter.calls.length = 2 := by
  intro s r idle busy e os moves later
  obtain ⟨alone, together⟩ := attempts_at_flush s r
  have kept : (Owned.after s r os).gaveUp = false := by decide +kernel
  have done : ((Owned.after s r os).audit.transport.flush .epoch busy).1 = true := by
    decide +kernel
  have admits : (Traffic.after s.transportConfig moves).history.admits = true := by decide +kernel
  have told : (Traffic.after s.transportConfig moves).history.emitter.tickets ∈
      (Traffic.after s.transportConfig (moves ++ .queue .flush :: later)).history.emitter.answered := by
    decide +kernel
  refine ⟨⟨kept, done, (alone os .epoch busy kept done).2, ?_⟩,
    (together moves .flush later (.inl rfl) admits told).1, ?_⟩
  · decide +kernel
  · decide +kernel

/-- Two flushes that succeed although envelopes that were let in, and that no limit holds back, have
not been asked for: after a shutdown that gave up, and after a panic over an envelope of their
batch. -/
theorem attempts_missed :
    let s : Settings := { Settings.default with transportBatchSize := 2 }
    let held : Emitter.Pace := fun _ => ⟨9, true, false⟩
    let busy : Emitter.Pace := fun _ => ⟨9, false, false⟩
    let e : Envelope := .ofItem (.logs [])
    let x := Owned.after s (fun _ _ => .failed .noDsn) [.send .epoch held e, .shutdown .epoch held]
    let y := Owned.after s (fun _ _ => .panicked) [.send .epoch held e, .send .epoch held e]
    ((x.audit.transport.flush .epoch held).1 = true ∧
      (x.run (.flush .epoch held)).audit.ledger.letIn.length = 1 ∧
      (x.run (.flush .epoch held)).audit.transport.requests.length = 0) ∧
    (y.audit.transport.flush .epoch busy).1 = true ∧
      (y.run (.flush .epoch busy)).audit.ledger.letIn.length = 2 ∧
      (y.run (.flush .epoch busy)).audit.transport.requests.length = 1 := by
  decide +kernel

end Telemetry.Transport
