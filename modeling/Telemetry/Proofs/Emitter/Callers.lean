import Telemetry.Proofs.Emitter.Moves

/-! Shutting down while others offer items. Whoever offers an item first looks whether the emitter takes
any, and puts it into the queue later. A shutdown makes the emitter take no more, asks the worker to
stop, and ends with the answer. So nothing that was accepted is lost, unless somebody who was let in
before the shutdown is still without a place when it begins. -/

namespace Telemetry.Emitter

variable {α : Type}

/-- An emitter, those who offer it items, and its shutdown. -/
structure Callers (α : Type) where
  history : History α
  /-- The items that were let in and wait for a place. -/
  inside : List α
  /-- The items that were accepted, the first one first. -/
  accepted : List α
  /-- The ticket of the shutdown, once it has asked the worker. -/
  asked : Option Nat

namespace Callers

inductive Move (α : Type) where
  /-- Somebody offers an item, and looks whether the emitter takes any. -/
  | enter (a : α)
  /-- Some item that was let in gets a place, is refused, or goes on waiting. -/
  | put (i : Nat)
  | flush
  /-- A shutdown begins. -/
  | close
  /-- It asks the worker to stop. -/
  | ask
  | work (panics : Bool)
  | expire
deriving DecidableEq, Repr

def start (config : BatchConfig) : Callers α :=
  { history := .start config, inside := [], accepted := [], asked := none }

/-- A move of the worker or of its queue. -/
def advance (m : Emitter.Move α) (c : Callers α) : Callers α := { c with history := c.history.move m }

def put (i : Nat) (c : Callers α) : Callers α :=
  match c.inside[i]? with
  | none => c
  | some a =>
    let rest := c.inside.eraseIdx i
    let e := c.history.emitter
    if c.history.admits then
      { c with history := c.history.send a, inside := rest, accepted := c.accepted ++ [a] }
    else if !e.isOpen then { c with inside := rest }
    else match e.config.policy with
      | .block => c
      | .dropNewest =>
        { c with
          inside := rest
          history := { c.history with emitter := { e with dropped := e.dropped + 1 } } }

def ask (c : Callers α) : Callers α :=
  let e := c.history.emitter
  if !e.accepting && c.asked.isNone && c.history.admits then
    { c with history := c.history.ask .shutdown, asked := some e.tickets }
  else c

def move (c : Callers α) : Move α → Callers α
  | .enter a => if c.history.emitter.accepting then { c with inside := c.inside ++ [a] } else c
  | .put i => c.put i
  | .flush => c.advance .flush
  | .close =>
    let e := { c.history.emitter with accepting := false, released := true }
    { c with history := { c.history with emitter := e } }
  | .ask => c.ask
  | .work panics => c.advance (.work panics)
  | .expire => c.advance .expire

def after (config : BatchConfig) (moves : List (Move α)) : Callers α :=
  moves.foldl move (start config)

/-- Whether the worker has answered the shutdown, which so returns that everything is handed on. -/
def isDone (c : Callers α) : Bool := c.asked.any c.history.emitter.answered.contains

/-! ### Invariants -/

structure Holds (c : Callers α) : Prop where
  history : c.history.Holds
  accepted : items c.history.sent = c.accepted
  asked : c.history.emitter.accepting = true → c.asked = none

theorem holds_start (config : BatchConfig) : (start config : Callers α).Holds :=
  ⟨History.holds_start config, rfl, fun _ => rfl⟩

theorem Holds.advance {c : Callers α} (i : c.Holds) {m : Emitter.Move α} (other : ∀ a, m ≠ .item a) :
    (c.advance m).Holds := by
  refine ⟨i.history.move m, ?_, ?_⟩
  · show items (c.history.move m).sent = c.accepted
    rw [History.items_sent_move c.history other]
    exact i.accepted
  · show (c.history.move m).emitter.accepting = true → c.asked = none
    rw [(History.frame_move c.history m).accepting]
    exact i.asked

theorem Holds.put {c : Callers α} (i : c.Holds) (n : Nat) : (c.put n).Holds := by
  unfold Callers.put
  split
  · exact i
  · next a _ =>
    dsimp only
    split
    · refine ⟨i.history.send a, ?_, i.asked⟩
      show items (c.history.sent ++ [.item a]) = c.accepted ++ [a]
      rw [items_append, i.accepted]
      rfl
    · split
      · exact ⟨i.history, i.accepted, i.asked⟩
      · split
        · exact i
        · exact ⟨i.history.owner _ _ _, i.accepted, i.asked⟩

theorem Holds.ask {c : Callers α} (i : c.Holds) : c.ask.Holds := by
  unfold Callers.ask
  dsimp only
  split
  · next may =>
    obtain ⟨⟨closed, -⟩, admits⟩ : (c.history.emitter.accepting = false ∧ c.asked.isNone = true) ∧
        c.history.admits = true := by simpa using may
    have moved := i.advance (m := .shutdown) nofun
    have same : c.history.move .shutdown = c.history.ask .shutdown := if_pos admits
    obtain ⟨history, accepted, -⟩ := moved
    rw [Callers.advance, same] at history accepted
    refine ⟨history, accepted, fun accepting => ?_⟩
    rw [show (c.history.ask Task.shutdown).emitter.accepting = c.history.emitter.accepting from rfl,
      closed] at accepting
    cases accepting
  · exact i

theorem Holds.move {c : Callers α} (i : c.Holds) (m : Move α) : (c.move m).Holds := by
  cases m with
  | enter a =>
    simp only [Callers.move]
    split
    · exact ⟨i.history, i.accepted, i.asked⟩
    · exact i
  | put n => exact i.put n
  | flush | work | expire => exact i.advance nofun
  | close => exact ⟨i.history.owner _ _ _, i.accepted, nofun⟩
  | ask => exact i.ask

theorem Holds.moves {c : Callers α} (i : c.Holds) (moves : List (Move α)) :
    (moves.foldl Callers.move c).Holds := by
  induction moves generalizing c with
  | nil => exact i
  | cons m moves ih => exact ih (i.move m)

/-! ### What came before the question -/

/-- What was accepted early is in front of the shutdown in the queue, once that has asked. -/
structure Early (early : List α) (c : Callers α) : Prop where
  accepted : early <+: c.accepted
  front : ∀ t, c.asked = some t →
    ∃ before later, c.history.sent = before ++ .shutdown t :: later ∧ early <+: items before

theorem Early.sent {early : List α} {c : Callers α} (e : Early early c) {h : History α}
    {more : List (Task α)} (sent : h.sent = c.history.sent ++ more) {accepted : List α}
    (grows : c.accepted <+: accepted) (inside : List α) :
    Early early { c with history := h, inside, accepted } := by
  refine ⟨e.accepted.trans grows, fun t asked => ?_⟩
  obtain ⟨before, later, split, front⟩ := e.front t asked
  refine ⟨before, later ++ more, ?_, front⟩
  rw [sent, split, List.append_assoc]
  rfl

theorem Early.advance {early : List α} {c : Callers α} (e : Early early c) (m : Emitter.Move α) :
    Early early (c.advance m) := by
  obtain ⟨more, sent⟩ := c.history.sent_move m
  exact e.sent sent (List.prefix_refl _) c.inside

theorem Early.put {early : List α} {c : Callers α} (e : Early early c) (n : Nat) :
    Early early (c.put n) := by
  unfold Callers.put
  split
  · exact e
  · next a _ =>
    dsimp only
    split
    · exact e.sent rfl (List.prefix_append _ [a]) _
    · split
      · exact ⟨e.accepted, e.front⟩
      · split
        · exact e
        · exact ⟨e.accepted, e.front⟩

theorem Early.ask {early : List α} {c : Callers α} (e : Early early c) (i : c.Holds) :
    Early early c.ask := by
  unfold Callers.ask
  dsimp only
  split
  · refine ⟨e.accepted, fun t asked => ⟨c.history.sent, [], ?_, ?_⟩⟩
    · obtain rfl : c.history.emitter.tickets = t := Option.some.inj asked
      rfl
    · rw [i.accepted]
      exact e.accepted
  · exact e

theorem Early.move {early : List α} {c : Callers α} (e : Early early c) (i : c.Holds)
    (m : Move α) : Early early (c.move m) := by
  cases m with
  | enter a =>
    simp only [Callers.move]
    split
    · exact ⟨e.accepted, e.front⟩
    · exact e
  | put n => exact e.put n
  | flush | work | expire => exact e.advance _
  | close => exact ⟨e.accepted, e.front⟩
  | ask => exact e.ask i

theorem Early.moves {early : List α} {c : Callers α} (e : Early early c) (i : c.Holds)
    (moves : List (Move α)) : Early early (moves.foldl Callers.move c) := by
  induction moves generalizing c with
  | nil => exact e
  | cons m moves ih => exact ih (e.move i m) (i.move m)

theorem Early.taken {early : List α} {c : Callers α} (e : Early early c) (i : c.Holds)
    (done : c.isDone = true) : early <+: c.history.taken.flatten := by
  obtain ⟨t, asked, answered⟩ : ∃ t, c.asked = some t ∧ t ∈ c.history.emitter.answered := by
    rw [isDone, Option.any_eq_true] at done
    simpa using done
  obtain ⟨before, later, split, front⟩ := e.front t asked
  exact front.trans (i.history.accounted.answers before _ later t split rfl answered)

theorem after_append (config : BatchConfig) (moves later : List (Move α)) :
    after config (moves ++ later) = later.foldl move (after config moves) := List.foldl_append ..

/-- When a shutdown is done, whatever was accepted before it asked the worker is handed on, and what is
handed on was accepted, in this order and each once. -/
theorem early_handed_on (config : BatchConfig) (moves later : List (Move α))
    (unasked : (after config moves).asked = none) (done : (after config (moves ++ later)).isDone = true) :
    let c := after config (moves ++ later)
    (after config moves).accepted <+: c.history.taken.flatten ∧
      c.history.taken.flatten <+: c.accepted := by
  have holds : ∀ moves, (after config moves : Callers α).Holds := (holds_start config).moves
  have early : Early (after config moves).accepted (after config moves) := by
    refine ⟨List.prefix_refl _, fun t asked => ?_⟩
    rw [unasked] at asked
    cases asked
  have early' := early.moves (holds moves) later
  rw [← after_append] at early'
  refine ⟨early'.taken (holds _) done, ?_⟩
  have handed := (holds (moves ++ later)).history.handed_first
  rw [(holds _).accepted, History.handed, List.flatten_append] at handed
  exact (List.prefix_append _ _).trans handed

/-! ### Without anybody inside -/

/-- Nobody gets in any more, and nobody is inside. -/
structure Quiet (accepted : List α) (c : Callers α) : Prop where
  closed : c.history.emitter.accepting = false
  inside : c.inside = []
  accepted : c.accepted = accepted

theorem Quiet.move {accepted : List α} {c : Callers α} (q : Quiet accepted c) (m : Move α) :
    Quiet accepted (c.move m) := by
  have advance : ∀ m, Quiet accepted (c.advance m) := by
    intro m
    refine ⟨?_, q.inside, q.accepted⟩
    show (c.history.move m).emitter.accepting = false
    rw [(History.frame_move c.history m).accepting]
    exact q.closed
  cases m with
  | enter a =>
    simp only [Callers.move, q.closed, Bool.false_eq_true, if_false]
    exact q
  | put n =>
    simp only [Callers.move, Callers.put, q.inside, List.getElem?_nil]
    exact q
  | flush | work | expire => exact advance _
  | close => exact ⟨rfl, q.inside, q.accepted⟩
  | ask =>
    simp only [Callers.move, Callers.ask]
    split
    · exact ⟨q.closed, q.inside, q.accepted⟩
    · exact q

theorem Quiet.moves {accepted : List α} {c : Callers α} (q : Quiet accepted c)
    (moves : List (Move α)) : Quiet accepted (moves.foldl Callers.move c) := by
  induction moves generalizing c with
  | nil => exact q
  | cons m moves ih => exact ih (q.move m)

/-- If a shutdown begins while nobody who was let in is without a place, then, when it is done,
everything that was accepted is handed on, in its order and each once. -/
theorem all_handed_on (config : BatchConfig) (moves later : List (Move α))
    (isOpen : (after config moves).history.emitter.accepting = true)
    (nobody : (after config moves).inside = [])
    (done : (after config (moves ++ .close :: later)).isDone = true) :
    let c := after config (moves ++ .close :: later)
    c.history.taken.flatten = c.accepted := by
  intro c
  have unasked := ((holds_start config).moves moves).asked isOpen
  obtain ⟨early, all⟩ := early_handed_on config moves (.close :: later) unasked done
  have quiet : Quiet (after config moves).accepted ((after config moves).move .close) :=
    ⟨rfl, nobody, rfl⟩
  have quiet' := quiet.moves later
  have same : c = later.foldl move ((after config moves).move .close) := after_append ..
  rw [← same] at quiet'
  rw [← quiet'.accepted] at early
  exact all.eq_of_length_le early.length_le

/-- An item that was let in before the shutdown gets its place while the last batch is handed on: it is
accepted, and lost. -/
theorem overlap_loses :
    let c := after (.make "logs" 2 0 .block)
      [.enter 1, .put 0, .enter 2, .close, .ask, .work false, .work false, .work false, .put 0,
        .work false]
    c.isDone = true ∧ c.accepted = [1, 2] ∧ c.history.taken = [[1]] ∧
      c.history.emitter.worker = .exited := by
  decide

end Callers

end Telemetry.Emitter
