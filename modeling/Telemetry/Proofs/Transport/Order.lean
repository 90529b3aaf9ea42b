import Mathlib.Data.List.Forall2
import Telemetry.Proofs.Emitter.Moves
import Telemetry.Proofs.Envelope.Filter
import Telemetry.Proofs.Transport.History

/-! Requests follow offers: each request is for a part of one offered envelope, in the order of the
offers, and a later request for a later one. What a request carries was not limited when the limits
were looked at, and so at no later time while they stay the same. -/

namespace Telemetry

/-! ### Limits -/

theorem RateLimits.timeLeft_mono {now later limit : Instant} (order : now.nanos ≤ later.nanos)
    (h : timeLeft now limit = .none) : timeLeft later limit = .none := by
  unfold timeLeft at h ⊢
  split at h
  · cases h
  · rw [if_neg (by omega)]

/-- As time goes by, limits end and none begins. -/
theorem RateLimits.isLimited_mono {l : RateLimits} {now later : Instant} {c : Category}
    (order : now.nanos ≤ later.nanos) (h : l.isLimited now c = false) :
    l.isLimited later c = false := by
  unfold isLimited disabled at h ⊢
  rw [Option.isSome_eq_false_iff, Option.isNone_iff_eq_none, Option.or_eq_none_iff] at h ⊢
  have ended : ∀ limit : Option Instant, limit.bind (timeLeft now) = .none →
      limit.bind (timeLeft later) = .none := by
    intro limit h
    cases limit with
    | none => rfl
    | some limit => exact timeLeft_mono order h
  exact ⟨ended _ h.1, ended _ h.2⟩

theorem RateLimits.items_filter {l : RateLimits} {now : Instant} {e kept : Envelope}
    (h : l.filter now e = some kept) :
    kept.items ≠ [] ∧ kept.items.Sublist e.items ∧
      ∀ i ∈ kept.items, l.isLimited now i.category = false := by
  obtain ⟨items, full⟩ := Envelope.items_filter h
  refine ⟨full, ?_, ?_⟩
  · rw [items]
    exact List.filter_sublist
  · intro i hi
    rw [items, List.mem_filter] at hi
    simpa using hi.2

namespace Transport

/-! ### Parts of what was offered -/

/-- Some items of an envelope, in their order. -/
def Part (kept offered : Envelope) : Prop := kept.items.Sublist offered.items

instance : Std.Refl Part := ⟨fun e => List.Sublist.refl e.items⟩

instance : IsTrans Envelope Part := ⟨fun _ _ _ h h' => h.trans h'⟩

/-- The envelopes of the first list are parts of envelopes of the second one, one for each and in the
same order. -/
abbrev Parts : List Envelope → List Envelope → Prop := List.SublistForall₂ Part

theorem Parts.append {xs ys xs' ys' : List Envelope} (h : Parts xs ys) (h' : Parts xs' ys') :
    Parts (xs ++ xs') (ys ++ ys') := by
  obtain ⟨zs, same, sub⟩ := List.sublistForall₂_iff.mp h
  obtain ⟨zs', same', sub'⟩ := List.sublistForall₂_iff.mp h'
  exact List.sublistForall₂_iff.mpr ⟨zs ++ zs', List.rel_append same same', sub.append sub'⟩

theorem Parts.of_sublist {xs ys : List Envelope} (h : xs.Sublist ys) : Parts xs ys :=
  h.sublistForall₂

theorem Parts.trans {xs ys zs : List Envelope} (h : Parts xs ys) (h' : Parts ys zs) : Parts xs zs :=
  List.SublistForall₂.is_trans.trans _ _ _ h h'

/-! ### The desk -/

/-- A request with items, none of which is limited from the time that the limits were looked at. -/
structure Request.Clear (r : Request) : Prop where
  full : r.envelope.items ≠ []
  unlimited : ∀ t : Instant, r.time.nanos ≤ t.nanos → ∀ i ∈ r.envelope.items,
    r.limits.isLimited t i.category = false

/-- The envelopes that were asked for. -/
def Desk.called (d : Desk) : List Envelope := d.requests.map Request.envelope

/-- What holds of a desk that the envelopes of `handed` got to. -/
structure Desk.Serves (d : Desk) (handed : List Envelope) : Prop where
  split : ∃ done, handed = done ++ d.left ∧ Parts d.called done
  clear : ∀ r ∈ d.requests, r.Clear

theorem Desk.Serves.deliver {d : Desk} {handed : List Envelope} (s : d.Serves handed)
    (now : Instant) : (d.deliver now).Serves handed := by
  obtain ⟨⟨done, hsplit, parts⟩, clear⟩ := s
  unfold Desk.deliver
  split
  · next e rest _ hleft =>
    have hsplit : handed = done ++ [e] ++ rest := by
      rw [hsplit, hleft, List.append_assoc]
      rfl
    split
    · -- nothing is left of the envelope
      refine ⟨⟨done ++ [e], hsplit, ?_⟩, clear⟩
      exact parts.trans (.of_sublist (List.sublist_append_left done [e]))
    · next kept hkept =>
      obtain ⟨full, part, unlimited⟩ := RateLimits.items_filter hkept
      refine ⟨⟨done ++ [e], hsplit, ?_⟩, ?_⟩
      · show Parts ((d.requests ++ [_]).map Request.envelope) (done ++ [e])
        rw [List.map_append]
        exact parts.append (.cons part .nil)
      · intro r hr
        rcases List.mem_append.mp hr with hr | hr
        · exact clear r hr
        · obtain rfl := List.mem_singleton.mp hr
          exact ⟨full, fun t ht i hi => RateLimits.isLimited_mono ht (unlimited i hi)⟩
  · exact ⟨⟨done, hsplit, parts⟩, clear⟩

theorem Desk.Serves.answer {d : Desk} {handed : List Envelope} (s : d.Serves handed)
    (now : Instant) (result : RequestResult) : (d.answer now result).Serves handed := by
  obtain ⟨⟨done, hsplit, parts⟩, clear⟩ := s
  unfold Desk.answer
  split
  · by_cases panicked : result = .panicked
    · -- what was still to be delivered counts as done
      refine ⟨⟨handed, ?_, ?_⟩, clear⟩
      · simp only [if_pos panicked, List.append_nil]
      · refine parts.trans (.of_sublist ?_)
        rw [hsplit]
        exact List.sublist_append_left done d.left
    · refine ⟨⟨done, ?_, parts⟩, clear⟩
      simp only [if_neg panicked, hsplit]
  · exact ⟨⟨done, hsplit, parts⟩, clear⟩

theorem Desk.left_deliver {d : Desk} (h : d.left = []) (now : Instant) :
    (d.deliver now).left = [] := by
  unfold Desk.deliver
  split
  · next hleft =>
    rw [h] at hleft
    cases hleft
  · exact h

theorem Desk.left_answer {d : Desk} (h : d.left = []) (now : Instant) (result : RequestResult) :
    (d.answer now result).left = [] := by
  unfold Desk.answer
  split
  · simp only [h, ite_self]
  · exact h

theorem Desk.left_of_isFree {d : Desk} (h : d.isFree = true) : d.left = [] :=
  List.isEmpty_iff.mp (Bool.and_eq_true_iff.mp h).2

/-- New envelopes get to a desk that has nothing left to deliver. -/
theorem Desk.Serves.hand {d : Desk} {handed : List Envelope} (s : d.Serves handed)
    (free : d.left = []) (more : List Envelope) :
    Desk.Serves { d with left := more } (handed ++ more) := by
  obtain ⟨⟨done, hsplit, parts⟩, clear⟩ := s
  rw [free, List.append_nil] at hsplit
  exact ⟨⟨done, by rw [hsplit], parts⟩, clear⟩

/-! ### Moves -/

namespace History

/-- The invariant of a history: what was handed on is dealt with or still to be delivered, and what was
let in are parts of what was offered. -/
structure Holds (h : History) : Prop where
  queue : ∀ line, h.line = .queued line →
    line.Holds ∧ (line.emitter.isCalling = false → h.desk.left = [])
  desk : h.desk.Serves h.line.handed
  parts : Parts (h.line.entered ++ h.stage.left) h.offers

theorem holds_start (c : Option BatchConfig) : (start c).Holds := by
  have desk : Desk.empty.Serves [] := ⟨⟨[], rfl, .nil⟩, fun r hr => by cases hr⟩
  cases c with
  | none => exact ⟨fun line same => (by cases same), desk, .nil⟩
  | some c =>
    refine ⟨fun line same => ?_, desk, .nil⟩
    cases same
    exact ⟨Emitter.History.holds_start c, fun _ => rfl⟩

theorem advance_calling {h : History} {line : Emitter.History Envelope}
    (hline : h.line = .queued line) (calling : line.emitter.isCalling = true)
    (m : Emitter.Move Envelope) : h.advance m = { h with line := .queued (line.move m) } := by
  simp only [advance, hline, calling, if_true]

theorem advance_waiting {h : History} {line : Emitter.History Envelope}
    (hline : h.line = .queued line) (waiting : line.emitter.isCalling = false)
    (m : Emitter.Move Envelope) :
    h.advance m =
      { h with
        line := .queued (line.move m)
        desk := { h.desk with left := (line.move m).emitter.inHand.flatten } } := by
  simp only [advance, hline, waiting, Bool.false_eq_true, if_false]

/-- What has happened to the batch of a busy worker after a move. -/
theorem handed_of_calling {line : Emitter.History Envelope}
    (calling : line.emitter.isCalling = true) (m : Emitter.Move Envelope) :
    (line.move m).handed = line.handed ∧
      ((line.move m).emitter.isCalling = false → ∃ panics, m = .work panics) := by
  by_cases ends : ∃ panics, m = .work panics
  · obtain ⟨panics, rfl⟩ := ends
    exact ⟨(Emitter.History.handed_work calling panics).1, fun _ => ⟨panics, rfl⟩⟩
  · obtain ⟨calls, worker⟩ :=
      Emitter.History.worker_move calling fun panics same => ends ⟨panics, same⟩
    refine ⟨?_, fun stopped => ?_⟩
    · simp only [Emitter.History.handed, Emitter.History.taken, Emitter.inHand, calls, worker]
    · rw [Emitter.isCalling, worker] at stopped
      rw [Emitter.isCalling, stopped] at calling
      cases calling

/-- A move of the worker keeps the invariant; it ends a call only when the desk is free. -/
theorem Holds.advance {h : History} (i : h.Holds) {m : Emitter.Move Envelope}
    (item : ∀ e, m ≠ .item e) (free : ∀ panics, m = .work panics → h.desk.left = []) :
    (h.advance m).Holds := by
  cases hline : h.line with
  | immediate closed handed =>
    have same : h.advance m = h := by simp only [History.advance, hline]
    rw [same]
    exact i
  | queued line =>
    obtain ⟨queue, waiting⟩ := i.queue line hline
    have desk := i.desk
    have parts := i.parts
    rw [hline] at desk parts
    have entered : Parts (Emitter.items (line.move m).sent ++ h.stage.left) h.offers := by
      rw [Emitter.History.items_sent_move line item]
      exact parts
    cases calling : line.emitter.isCalling with
    | true =>
      obtain ⟨handed, ended⟩ := handed_of_calling calling m
      rw [advance_calling hline calling]
      refine ⟨?_, ?_, entered⟩
      · intro next same
        cases same
        refine ⟨queue.move m, fun stopped => ?_⟩
        obtain ⟨panics, work⟩ := ended stopped
        exact free panics work
      · show h.desk.Serves (line.move m).handed.flatten
        rw [handed]
        exact desk
    | false =>
      have nothing : line.emitter.inHand = [] := Emitter.isCalling_eq_false_iff.mp calling
      have handed : (line.move m).handed.flatten =
          line.handed.flatten ++ (line.move m).emitter.inHand.flatten := by
        rw [Emitter.History.handed, Emitter.History.handed, Emitter.History.taken_move calling m,
          nothing, List.append_nil, List.flatten_append]
      rw [advance_waiting hline calling]
      refine ⟨?_, ?_, entered⟩
      · intro next same
        cases same
        refine ⟨queue.move m, fun still => ?_⟩
        rw [Emitter.isCalling_eq_false_iff.mp still]
        rfl
      · show Desk.Serves _ (line.move m).handed.flatten
        rw [handed]
        exact desk.hand (waiting calling) _

theorem Holds.offer {h : History} (i : h.Holds) (now : Instant) (e : Envelope) :
    (h.offer now e).Holds := by
  unfold History.offer
  split
  · next ended =>
    have parts := i.parts
    rw [ended] at parts
    split
    · refine ⟨i.queue, i.desk, ?_⟩
      have none : Parts (h.line.entered ++ []) (h.offers ++ [e]) :=
        parts.trans (.of_sublist (List.sublist_append_left h.offers [e]))
      split
      · next kept hkept =>
        have part : Part kept e := by
          cases hline : h.line with
          | immediate closed handed =>
            rw [hline] at hkept
            cases hkept
            exact List.Sublist.refl _
          | queued line =>
            rw [hline] at hkept
            exact (RateLimits.items_filter hkept).2.1
        rw [Stage.left, List.append_nil] at parts
        exact parts.append (.cons part .nil)
      · exact none
    · exact i
  · exact i

theorem Holds.enter {h : History} (i : h.Holds) : h.enter.Holds := by
  unfold History.enter
  split
  · next e admitted =>
    have parts := i.parts
    rw [admitted] at parts
    refine ⟨i.queue, i.desk, ?_⟩
    show Parts (h.line.entered ++ Stage.left (if h.line.accepting then .entering e else .ended)) _
    split
    · exact parts
    · refine .trans (.of_sublist ?_) parts
      exact (List.Sublist.refl _).append (List.nil_sublist _)
  · exact i

/-- An offer that came to nothing leaves no trace. -/
theorem Holds.giveUp {h : History} (i : h.Holds) : Holds { h with stage := .ended } := by
  refine ⟨i.queue, i.desk, .trans (.of_sublist ?_) i.parts⟩
  exact (List.Sublist.refl _).append (List.nil_sublist _)

theorem Holds.put {h : History} (i : h.Holds) : h.put.Holds := by
  have parts := i.parts
  have desk := i.desk
  unfold History.put
  split
  · next e closed handed entering hline =>
    split
    · next free =>
      rw [entering, hline] at parts
      rw [hline] at desk
      refine ⟨fun line same => (by cases same), desk.hand (Desk.left_of_isFree free) [e], ?_⟩
      rw [Line.entered, Stage.left, List.append_nil]
      exact parts
    · exact i
  · next e line entering hline =>
    obtain ⟨queue, waiting⟩ := i.queue line hline
    rw [entering, hline] at parts
    rw [hline] at desk
    split
    · refine ⟨?_, desk, ?_⟩
      · intro next same
        cases same
        exact ⟨queue.send e, waiting⟩
      · rw [Line.entered, Emitter.History.send, Emitter.items_append, Stage.left, List.append_nil]
        exact parts
    · split
      · exact i.giveUp
      · split
        · exact i
        · refine ⟨?_, desk, ?_⟩
          · intro next same
            cases same
            exact ⟨queue.owner _ _ _, waiting⟩
          · refine .trans (.of_sublist ?_) parts
            exact (List.Sublist.refl _).append (List.nil_sublist _)
  · exact i

theorem Holds.close {h : History} (i : h.Holds) : Holds { h with line := h.line.close } := by
  have desk := i.desk
  have parts := i.parts
  cases hline : h.line with
  | immediate closed handed =>
    rw [hline] at desk parts
    exact ⟨fun line same => (by cases same), desk, parts⟩
  | queued line =>
    obtain ⟨queue, waiting⟩ := i.queue line hline
    rw [hline] at desk parts
    refine ⟨?_, desk, parts⟩
    intro next same
    cases same
    exact ⟨queue.owner _ _ _, waiting⟩

theorem Holds.work {h : History} (i : h.Holds) (panics : Bool) : (h.work panics).Holds := by
  unfold History.work
  split
  · next free =>
    exact i.advance (fun e same => by cases same) fun _ _ => Desk.left_of_isFree free
  · exact i

/-- What happens at the desk keeps the invariant. -/
theorem Holds.atDesk {h : History} (i : h.Holds) {d : Desk} (serves : d.Serves h.line.handed)
    (left : h.desk.left = [] → d.left = []) : Holds { h with desk := d } := by
  refine ⟨fun line hline => ?_, serves, i.parts⟩
  obtain ⟨queue, waiting⟩ := i.queue line hline
  exact ⟨queue, fun stopped => left (waiting stopped)⟩

/-- Every move keeps the invariant. -/
theorem Holds.move {h : History} (i : h.Holds) (m : Move) : (h.move m).Holds := by
  have quiet : ∀ m : Emitter.Move Envelope, (∀ e, m ≠ .item e) → (∀ panics, m ≠ .work panics) →
      (h.advance m).Holds := fun m item work =>
    i.advance item fun panics same => absurd same (work panics)
  cases m with
  | offer now e => exact i.offer now e
  | enter => exact i.enter
  | put => exact i.put
  | close => exact i.close
  | work panics => exact i.work panics
  | flush => exact quiet .flush (by simp) (by simp)
  | shutdown => exact quiet .shutdown (by simp) (by simp)
  | expire => exact quiet .expire (by simp) (by simp)
  | disconnect => exact quiet .disconnect (by simp) (by simp)
  | leave =>
    simp only [History.move]
    split
    · exact quiet .leave (by simp) (by simp)
    · exact i
  | deliver now => exact i.atDesk (i.desk.deliver now) fun h => Desk.left_deliver h now
  | answer now result =>
    exact i.atDesk (i.desk.answer now result) fun h => Desk.left_answer h now result

theorem Holds.moves {h : History} (i : h.Holds) (moves : List Move) :
    (moves.foldl History.move h).Holds := by
  induction moves generalizing h with
  | nil => exact i
  | cons m moves ih => exact ih (i.move m)

theorem Holds.parts_called {h : History} (i : h.Holds) : Parts h.desk.called h.line.entered := by
  obtain ⟨done, hsplit, parts⟩ := i.desk.split
  have handed : done <+: h.line.handed := ⟨h.desk.left, hsplit.symm⟩
  have entered : h.line.handed <+: h.line.entered := by
    cases hline : h.line with
    | immediate closed handed => exact List.prefix_refl _
    | queued line => exact (i.queue line hline).1.handed_first
  exact parts.trans (.of_sublist (handed.trans entered).sublist)

/-! ### After a shutdown -/

/-- A closed transport, which was offered the envelopes of `offers` before. -/
structure Shut (offers : List Envelope) (h : History) : Prop where
  closed : h.line.accepting = false
  parts : Parts (h.line.entered ++ h.stage.taken) offers

theorem Holds.shut_of_closed {h : History} (i : h.Holds) (closed : h.line.accepting = false) :
    Shut h.offers h := by
  refine ⟨closed, .trans (.of_sublist ?_) i.parts⟩
  apply (List.Sublist.refl _).append
  cases h.stage with
  | ended => exact List.Sublist.refl _
  | admitted e => exact List.nil_sublist _
  | entering e => exact List.Sublist.refl _

theorem Holds.shut {h : History} (i : h.Holds) : Shut h.offers { h with line := h.line.close } := by
  apply i.close.shut_of_closed
  show h.line.close.accepting = false
  cases h.line <;> rfl

theorem Shut.advance {offers : List Envelope} {h : History} (s : Shut offers h)
    {m : Emitter.Move Envelope} (item : ∀ e, m ≠ .item e) : Shut offers (h.advance m) := by
  obtain ⟨closed, parts⟩ := s
  unfold History.advance
  split
  · exact ⟨closed, parts⟩
  · next line hline =>
    rw [hline] at closed parts
    refine ⟨?_, ?_⟩
    · show (line.move m).emitter.accepting = false
      rw [(Emitter.History.frame_move line m).accepting]
      exact closed
    · show Parts (Emitter.items (line.move m).sent ++ h.stage.taken) offers
      rw [Emitter.History.items_sent_move line item]
      exact parts

theorem Shut.put {offers : List Envelope} {h : History} (s : Shut offers h) :
    Shut offers h.put := by
  have ⟨closed, parts⟩ := s
  have gone : ∀ entered : List Envelope, Parts (entered ++ h.stage.taken) offers →
      Parts (entered ++ Stage.ended.taken) offers := by
    intro entered parts
    refine .trans (.of_sublist ?_) parts
    exact (List.Sublist.refl _).append (List.nil_sublist _)
  unfold History.put
  split
  · next e closed' handed entering hline =>
    rw [entering, hline] at parts
    rw [hline] at closed
    split
    · refine ⟨closed, ?_⟩
      rw [Line.entered, Stage.taken, List.append_nil]
      · exact parts
      · intro e same
        cases same
    · exact s
  · next e line entering hline =>
    rw [hline] at closed
    split
    · refine ⟨closed, ?_⟩
      rw [entering, hline] at parts
      rw [Line.entered, Emitter.History.send, Emitter.items_append, Stage.taken, List.append_nil]
      · exact parts
      · intro e same
        cases same
    · split
      · exact ⟨by rw [hline]; exact closed, gone _ parts⟩
      · split
        · exact s
        · rw [hline] at parts
          exact ⟨closed, gone _ parts⟩
  · exact s

/-- A closed transport lets nothing more in, but for the envelope that it took before. -/
theorem Shut.move {offers : List Envelope} {h : History} (s : Shut offers h) (m : Move) :
    Shut offers (h.move m) := by
  have ⟨closed, parts⟩ := s
  cases m with
  | offer now e =>
    simp only [History.move, History.offer]
    split
    · next ended =>
      split
      · refine ⟨closed, ?_⟩
        rw [ended] at parts
        split <;> exact parts
      · exact s
    · exact s
  | enter =>
    simp only [History.move, History.enter]
    split
    · next e admitted =>
      rw [admitted] at parts
      refine ⟨closed, ?_⟩
      rw [if_neg (by simp [closed])]
      exact parts
    · exact s
  | put => exact s.put
  | close =>
    refine ⟨?_, ?_⟩
    · show h.line.close.accepting = false
      cases h.line <;> rfl
    · show Parts (h.line.close.entered ++ _) _
      cases hline : h.line <;> (rw [hline] at parts; exact parts)
  | work panics =>
    simp only [History.move, History.work]
    split
    · exact s.advance (by simp)
    · exact s
  | flush | shutdown | expire | disconnect => exact s.advance (by simp)
  | leave =>
    simp only [History.move]
    split
    · exact s.advance (by simp)
    · exact s
  | deliver now => exact ⟨closed, parts⟩
  | answer now result => exact ⟨closed, parts⟩

theorem Shut.moves {offers : List Envelope} {h : History} (s : Shut offers h) (moves : List Move) :
    Shut offers (moves.foldl History.move h) := by
  induction moves generalizing h with
  | nil => exact s
  | cons m moves ih => exact ih (s.move m)

/-! ### After any moves -/

/-- Requests follow offers, whatever happens: each is for some of the items of one offered envelope, for
no envelope twice, and in the order in which they were offered. There is something in it, and nothing
that is limited from the time at which the limits were last looked at, which is before the request.
What is offered after a shutdown began is never asked for. -/
theorem requests_follow_offers (c : Option BatchConfig) (moves : List Move) :
    Parts (after c moves).desk.called (after c moves).offers ∧
      (∀ r ∈ (after c moves).desk.requests, r.Clear) ∧
      ∀ later, Parts (after c (moves ++ .close :: later)).desk.called (after c moves).offers := by
  have holds : ∀ moves, (after c moves).Holds := (holds_start c).moves
  refine ⟨?_, (holds moves).desk.clear, fun later => ?_⟩
  · have entered := (holds moves).parts_called
    refine entered.trans (.trans (.of_sublist ?_) (holds moves).parts)
    exact List.sublist_append_left ..
  · have closed : Shut (after c moves).offers (after c (moves ++ .close :: later)) := by
      have split : after c (moves ++ .close :: later) =
          later.foldl move ((after c moves).move .close) := List.foldl_append ..
      rw [split]
      exact (holds moves).shut.moves later
    refine (holds _).parts_called.trans (.trans (.of_sublist ?_) closed.parts)
    exact List.sublist_append_left ..

/-- An answer limits everything for a minute, so that the second envelope of a batch is left out; a
third one is taken before the transport is closed. -/
def busy : List Move :=
  let logs := Envelope.ofItem (.logs [])
  let metrics := Envelope.ofItem (.metrics [])
  [.offer (.ofSeconds 0) logs, .enter, .put, .offer (.ofSeconds 0) metrics, .enter, .put,
    .work false, .work false, .deliver (.ofSeconds 0),
    .answer (.ofSeconds 1) (.answered ⟨429, none, none⟩), .deliver (.ofSeconds 60), .work false,
    .offer (.ofSeconds 61) metrics, .enter]

/-- After the closing it gets its place, and a fourth one comes too late. -/
def closing : List Move :=
  [.put, .shutdown, .offer (.ofSeconds 61) (Envelope.ofItem (.logs [])), .enter, .put, .work false,
    .work false, .work false, .deliver (.ofSeconds 62),
    .answer (.ofSeconds 62) (.failed .noDsn), .work false]

/-- The history of a transport with two envelopes in a batch. -/
def busyThenClosing : History := after (some (.make "transport" 2 0 .block)) (busy ++ .close :: closing)

theorem requests_follow_offers_limited :
    busyThenClosing.desk.called.map Envelope.categories = [[.logItem], [.traceMetric]] ∧
      busyThenClosing.offers.map Envelope.categories =
        [[.logItem], [.traceMetric], [.traceMetric], [.logItem]] ∧
      Parts busyThenClosing.desk.called busyThenClosing.offers ∧
      Parts busyThenClosing.desk.called (after (some (.make "transport" 2 0 .block)) busy).offers := by
  have follow := requests_follow_offers (some (.make "transport" 2 0 .block))
  exact ⟨by decide +kernel, by decide +kernel, (follow (busy ++ .close :: closing)).1,
    (follow busy).2.2 closing⟩

end History

end Transport

end Telemetry
