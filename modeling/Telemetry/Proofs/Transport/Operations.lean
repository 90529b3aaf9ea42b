import Telemetry.Proofs.Emitter.Progress
import Telemetry.Proofs.Emitter.Room
import Telemetry.Proofs.Transport.Order

/-! Sending, flushing and shutting down as a whole are histories of moves: whatever is done with a
transport, some moves do as well, so that what holds after any moves holds of the transport. -/

namespace Telemetry.Transport

/-- A desk that stands for a courier with the envelopes of `left` still to deliver. -/
structure Desk.Shows (d : Desk) (c : Courier) (left : List Envelope) : Prop where
  limits : d.limits = c.limits
  called : d.called = c.requests
  left : d.left = left
  asking : d.asking = false

theorem Desk.Shows.isFree {d : Desk} {c : Courier} (s : d.Shows c []) : d.isFree = true := by
  rw [Desk.isFree, s.asking, s.left]
  rfl

namespace History

def Leads (h h' : History) : Prop := ∃ moves : List Move, moves.foldl move h = h'

theorem Leads.refl (h : History) : Leads h h := ⟨[], rfl⟩

theorem Leads.trans {h h' h'' : History} (l : Leads h h') (l' : Leads h' h'') : Leads h h'' := by
  obtain ⟨moves, rfl⟩ := l
  obtain ⟨more, rfl⟩ := l'
  exact ⟨moves ++ more, List.foldl_append ..⟩

theorem leads_move (h : History) (m : Move) : Leads h (h.move m) := ⟨[m], rfl⟩

theorem Holds.leads {h h' : History} (i : h.Holds) (l : Leads h h') : h'.Holds := by
  obtain ⟨moves, rfl⟩ := l
  exact i.moves moves

theorem Shut.leads {offers : List Envelope} {h h' : History} (s : Shut offers h)
    (l : Leads h h') : Shut offers h' := by
  obtain ⟨moves, rfl⟩ := l
  exact s.moves moves

/-! ### Deliveries -/

/-- One delivery is two moves, or one if nothing is left of the envelope. -/
theorem leads_deliver (now : Instant) {e : Envelope} {es : List Envelope} {c : Courier} {h : History}
    (s : h.desk.Shows c (e :: es)) :
    ∃ d, Leads h { h with desk := d } ∧
      d.Shows (c.deliver now e).2
        (if (c.deliver now e).1 = .done .panicked then [] else es) := by
  obtain ⟨limits, called, left, asking⟩ := s
  cases kept : c.limits.filter now e with
  | none =>
    have skipped : h.desk.deliver now = { h.desk with left := es } := by
      simp only [Desk.deliver, asking, left, limits, kept]
    have delivery : c.deliver now e = (.skipped, c) := by
      simp only [Courier.deliver, kept]
    refine ⟨_, leads_move h (.deliver now), ?_⟩
    rw [skipped, delivery]
    exact ⟨limits, called, rfl, asking⟩
  | some kept' =>
    have asked : h.desk.deliver now =
        { h.desk with
          left := es, asking := true
          requests := h.desk.requests ++ [⟨kept', now, h.desk.limits⟩] } := by
      simp only [Desk.deliver, asking, left, limits, kept]
    have delivery : c.deliver now e =
        (.done (c.requester c.requests.length kept'),
          { c with
            requests := c.requests ++ [kept']
            limits := Courier.learn now c.limits (c.requester c.requests.length kept') }) := by
      simp only [Courier.deliver, kept]
    generalize c.requester c.requests.length kept' = result at delivery
    refine ⟨_, (leads_move h (.deliver now)).trans (leads_move _ (.answer now result)), ?_⟩
    show (Desk.answer now result (h.desk.deliver now)).Shows _ _
    rw [asked, delivery]
    refine ⟨?_, ?_, ?_, rfl⟩
    · show Courier.learn now h.desk.limits result = _
      rw [limits]
    · show (h.desk.requests ++ [_]).map Request.envelope = _
      rw [List.map_append]
      exact congrArg (· ++ [kept']) called
    · show (if result = .panicked then [] else es) = _
      simp

theorem leads_deliverAll (now : Instant) {es : List Envelope} {c : Courier} {h : History}
    (s : h.desk.Shows c es) :
    ∃ d, Leads h { h with desk := d } ∧ d.Shows (c.deliverAll now es) [] := by
  induction es generalizing c h with
  | nil => exact ⟨h.desk, .refl h, s⟩
  | cons e es ih =>
    obtain ⟨d, leads, s⟩ := leads_deliver now s
    rcases delivery : c.deliver now e with ⟨result, c'⟩
    rw [delivery] at s
    by_cases panicked : result = .done .panicked
    · rw [if_pos panicked] at s
      refine ⟨d, leads, ?_⟩
      rw [Courier.deliverAll, delivery, panicked]
      exact s
    · rw [if_neg panicked] at s
      have next : ({ h with desk := d } : History).desk.Shows c' es := s
      obtain ⟨d', leads', s'⟩ := ih next
      refine ⟨d', leads.trans leads', ?_⟩
      have rest : c.deliverAll now (e :: es) = c'.deliverAll now es := by
        rw [Courier.deliverAll, delivery]
        split
        · next gave =>
          rw [Prod.mk.injEq] at gave
          exact absurd gave.1 panicked
        · next gave =>
          cases gave
          rfl
      rw [rest]
      exact s'

/-! ### The worker -/

/-- A history that stands for an emitter and its courier, between the operations on a transport. -/
structure Tracks (h : History) (c : Courier) (e : Emitter Envelope) : Prop where
  line : ∃ line, h.line = .queued line ∧ line.emitter = e ∧ line.attached = true
  desk : h.desk.Shows c e.inHand.flatten
  running : e.Running

/-- Moves of the worker that leave the offers alone. -/
def LeadsOn (h h' : History) : Prop := Leads h h' ∧ h'.offers = h.offers ∧ h'.stage = h.stage

theorem LeadsOn.refl (h : History) : LeadsOn h h := ⟨.refl h, rfl, rfl⟩

theorem LeadsOn.trans {h h' h'' : History} (l : LeadsOn h h') (l' : LeadsOn h' h'') :
    LeadsOn h h'' :=
  ⟨l.1.trans l'.1, l'.2.1.trans l.2.1, l'.2.2.trans l.2.2⟩

theorem deliverBatches_append (now : Instant) (xs ys : List (List Envelope)) (c : Courier) :
    deliverBatches now (xs ++ ys) c = deliverBatches now ys (deliverBatches now xs c) :=
  List.foldl_append ..

theorem offers_advance (h : History) (m : Emitter.Move Envelope) :
    (h.advance m).offers = h.offers ∧ (h.advance m).stage = h.stage := by
  unfold advance
  split <;> exact ⟨rfl, rfl⟩

/-- A step of the worker, with the deliveries of the batch that it hands on. -/
theorem Tracks.step {h : History} {c : Courier} {e e' : Emitter Envelope}
    {b : Option (List Envelope)} (t : h.Tracks c e) (step : e.step? = some (b, e')) (now : Instant) :
    ∃ h', LeadsOn h h' ∧ h'.Tracks (deliverBatches now b.toList c) e' := by
  obtain ⟨⟨line, hline, rfl, attached⟩, desk, running⟩ := t
  have running' := running.step step
  have hand := Emitter.inHand_of_step? step
  rw [hand] at desk
  cases b with
  | none =>
    have waiting : line.emitter.isCalling = false := Emitter.isCalling_eq_false_iff.mpr hand
    have next : line.move (.work false) = { line with emitter := e' } := by
      show line.work false = _
      rw [Emitter.History.work, step]
    have same : h.move (.work false) =
        { h with
          line := .queued { line with emitter := e' }
          desk := { h.desk with left := e'.inHand.flatten } } := by
      show h.work false = _
      rw [History.work, if_pos desk.isFree, advance_waiting hline waiting, next]
    refine ⟨_, ⟨leads_move h (.work false), ?_, ?_⟩, ?_⟩
    · rw [same]
    · rw [same]
    · rw [same]
      exact ⟨⟨_, rfl, rfl, attached⟩, ⟨desk.limits, desk.called, rfl, desk.asking⟩, running'⟩
  | some batch =>
    have calling := Emitter.isCalling_of_inHand hand
    obtain ⟨d, leads, shows⟩ := leads_deliverAll now (show h.desk.Shows c batch by simpa using desk)
    have next : line.move (.work false) =
        { line with emitter := e', calls := line.calls ++ [⟨batch, false⟩] } := by
      show line.work false = _
      rw [Emitter.History.work, step]
    have stopped : e'.inHand = [] := by
      have := (Emitter.History.handed_work calling false).2
      rw [← Emitter.isCalling_eq_false_iff]
      rwa [show line.work false = _ from next] at this
    have same : ({ h with desk := d } : History).move (.work false) =
        { h with
          line := .queued { line with emitter := e', calls := line.calls ++ [⟨batch, false⟩] }
          desk := d } := by
      have hline' : ({ h with desk := d } : History).line = .queued line := hline
      show History.work false { h with desk := d } = _
      rw [History.work, if_pos shows.isFree, advance_calling hline' calling, next]
    refine ⟨_, ⟨leads.trans (leads_move _ (.work false)), ?_, ?_⟩, ?_⟩
    · rw [same]
    · rw [same]
    · rw [same]
      refine ⟨⟨_, rfl, rfl, attached⟩, ?_, running'⟩
      show d.Shows (c.deliverAll now batch) _
      rw [stopped]
      exact shows

theorem Tracks.advance {h : History} {c : Courier} {e : Emitter Envelope} (t : h.Tracks c e)
    {line : Emitter.History Envelope} (hline : h.line = .queued line) {m : Emitter.Move Envelope}
    (work : ∀ panics, m ≠ .work panics) (attached : (line.move m).attached = true)
    (running : (line.move m).emitter.Running) :
    (h.advance m).Tracks c (line.move m).emitter := by
  obtain ⟨⟨line', hline', rfl, -⟩, desk, -⟩ := t
  rw [hline] at hline'
  cases hline'
  cases calling : line.emitter.isCalling with
  | true =>
    obtain ⟨-, worker⟩ := Emitter.History.worker_move calling work
    rw [advance_calling hline calling]
    refine ⟨⟨_, rfl, rfl, attached⟩, ?_, running⟩
    have same : (line.move m).emitter.inHand = line.emitter.inHand := by
      rw [Emitter.inHand, worker]
      rfl
    rw [same]
    exact desk
  | false =>
    rw [advance_waiting hline calling]
    exact ⟨⟨_, rfl, rfl, attached⟩, ⟨desk.limits, desk.called, rfl, desk.asking⟩, running⟩

theorem Tracks.expire {h : History} {c : Courier} {e : Emitter Envelope} (t : h.Tracks c e) :
    ∃ h', LeadsOn h h' ∧ h'.Tracks c e.expire := by
  obtain ⟨line, hline, rfl, attached⟩ := t.line
  have moved := t.advance hline (m := .expire) (by simp) attached t.running.expire
  exact ⟨h.advance .expire, ⟨leads_move h .expire, offers_advance h .expire⟩, moved⟩

theorem Tracks.works {h : History} {c : Courier} {e e' : Emitter Envelope}
    {batches : List (List Envelope)} (t : h.Tracks c e) (w : Emitter.Works e batches e')
    (now : Instant) : ∃ h', LeadsOn h h' ∧ h'.Tracks (deliverBatches now batches c) e' := by
  induction w generalizing h c with
  | rest e => exact ⟨h, .refl h, t⟩
  | step step _ ih =>
    obtain ⟨h₁, leads₁, t₁⟩ := t.step step now
    obtain ⟨h₂, leads₂, t₂⟩ := ih t₁
    refine ⟨h₂, leads₁.trans leads₂, ?_⟩
    rw [deliverBatches_append]
    exact t₂
  | expire _ ih =>
    obtain ⟨h₁, leads₁, t₁⟩ := t.expire
    obtain ⟨h₂, leads₂, t₂⟩ := ih t₁
    exact ⟨h₂, leads₁.trans leads₂, t₂⟩

theorem Tracks.turn {h : History} {c : Courier} {e : Emitter Envelope} (t : h.Tracks c e)
    (now : Instant) (turn : Emitter.Turn) :
    ∃ h', LeadsOn h h' ∧ h'.Tracks (deliverBatches now (e.turn turn).1 c) (e.turn turn).2 :=
  t.works (Emitter.works_turn turn e) now

/-! ### The places in the queue -/

/-- An offer can come to its end while the batches are delivered, with this emitter after it. -/
def Ends (h : History) (now : Instant) (c : Courier) (batches : List (List Envelope))
    (e : Emitter Envelope) : Prop :=
  ∃ h', Leads h h' ∧ h'.offers = h.offers ∧ h'.stage = .ended ∧
    h'.Tracks (deliverBatches now batches c) e

theorem Ends.of_leadsOn {h h₁ : History} {c : Courier} {e : Emitter Envelope} {now : Instant}
    {before batches : List (List Envelope)} (on : LeadsOn h h₁)
    (ends : h₁.Ends now (deliverBatches now before c) batches e) :
    h.Ends now c (before ++ batches) e := by
  obtain ⟨h₂, leads, offers, ended, t⟩ := ends
  refine ⟨h₂, on.1.trans leads, offers.trans on.2.1, ended, ?_⟩
  rw [deliverBatches_append]
  exact t

theorem Tracks.put {h : History} {c : Courier} {e : Emitter Envelope} {kept : Envelope}
    (t : h.Tracks c e) (entering : h.stage = .entering kept) (isOpen : e.isOpen = true)
    (room : e.isFull = false) (now : Instant) : h.Ends now c [] (e.put (.item kept)) := by
  obtain ⟨⟨line, hline, rfl, attached⟩, desk, running⟩ := t
  have admits : line.admits = true := by
    rw [Emitter.History.admits, attached, isOpen, room]
    rfl
  have same : h.put = { h with stage := .ended, line := .queued (line.send kept) } := by
    simp only [History.put, entering, hline, admits, if_true]
  refine ⟨_, leads_move h .put, ?_⟩
  rw [move, same]
  exact ⟨rfl, rfl, ⟨_, rfl, rfl, attached⟩, desk, running.put room _⟩

theorem Tracks.gone {h : History} {c : Courier} {e : Emitter Envelope} {kept : Envelope}
    (t : h.Tracks c e) (entering : h.stage = .entering kept) (closed : e.isOpen = false)
    (now : Instant) : h.Ends now c [] e := by
  obtain ⟨⟨line, hline, rfl, attached⟩, desk, running⟩ := t
  have admits : line.admits = false := by
    rw [Emitter.History.admits, closed, Bool.and_false, Bool.false_and]
  have same : h.put = { h with stage := .ended } := by
    simp [History.put, entering, hline, admits, closed]
  refine ⟨_, leads_move h .put, ?_⟩
  rw [move, same]
  exact ⟨rfl, rfl, ⟨_, hline, rfl, attached⟩, desk, running⟩

theorem Tracks.refuse {h : History} {c : Courier} {e : Emitter Envelope} {kept : Envelope}
    (t : h.Tracks c e) (entering : h.stage = .entering kept) (isOpen : e.isOpen = true)
    (full : e.isFull = true) (policy : e.config.policy = .dropNewest) (now : Instant) :
    h.Ends now c [] { e with dropped := e.dropped + 1 } := by
  obtain ⟨⟨line, hline, rfl, attached⟩, desk, running⟩ := t
  have admits : line.admits = false := by
    rw [Emitter.History.admits, full, Bool.not_true, Bool.and_false]
  have same : h.put = { h with stage := .ended, line := .refuse line } := by
    simp [History.put, entering, hline, admits, isOpen, policy]
  refine ⟨_, leads_move h .put, ?_⟩
  rw [move, same]
  exact ⟨rfl, rfl, ⟨_, rfl, rfl, attached⟩, desk, running.born, running.room⟩

/-- Whoever waits for room gets it, unless nobody is there any more to take the envelope. -/
theorem Tracks.wait {h : History} {c : Courier} {e : Emitter Envelope} {kept : Envelope}
    (t : h.Tracks c e) (entering : h.stage = .entering kept) (now : Instant) :
    let waited := Emitter.awaitRoom Emitter.roomSteps e
    h.Ends now c waited.1 (if waited.2.isOpen then waited.2.put (.item kept) else waited.2) := by
  intro waited
  obtain ⟨h₁, on, t₁⟩ := t.works (Emitter.works_awaitRoom Emitter.roomSteps e) now
  have entering₁ := on.2.2.trans entering
  have enough : Emitter.patience e.worker ≤ Emitter.roomSteps :=
    Nat.le_trans (Emitter.patience_le _) (by decide)
  have room : waited.2.isOpen = false ∨ waited.2.isFull = false :=
    Emitter.awaitRoom_room t.running enough
  rw [← List.append_nil waited.1]
  apply Ends.of_leadsOn on
  split
  · next isOpen =>
    rw [isOpen] at room
    exact t₁.put entering₁ isOpen (room.resolve_left nofun) now
  · next closed => exact t₁.gone entering₁ (by simpa using closed) now

theorem Tracks.enqueue {h : History} {c : Courier} {e : Emitter Envelope} {kept : Envelope}
    (t : h.Tracks c e) (admitted : h.stage = .admitted kept) (now : Instant) (pace : Emitter.Pace) :
    h.Ends now c (e.enqueue pace kept).batches (e.enqueue pace kept).emitter := by
  obtain ⟨line, hline, hemitter, -⟩ := t.line
  have accepting : h.line.accepting = e.accepting := by rw [hline, Line.accepting, hemitter]
  have entered : h.enter =
      { h with stage := if e.accepting then .entering kept else .ended } := by
    simp only [History.enter, admitted, accepting]
  have leads := leads_move h .enter
  rw [move, entered] at leads
  unfold Emitter.enqueue
  cases taken : e.accepting with
  | false =>
    rw [taken] at leads
    exact ⟨_, leads, rfl, rfl, t.line, t.desk, t.running⟩
  | true =>
    rw [taken, if_pos rfl] at leads
    have t₀ : Tracks { h with stage := .entering kept } c e := ⟨t.line, t.desk, t.running⟩
    obtain ⟨h₁, on, t₁⟩ := t₀.turn now pace.turn
    have entering := on.2.2
    have after : ∀ batches e',
        h₁.Ends now (deliverBatches now (e.turn pace.turn).1 c) batches e' →
        h.Ends now c ((e.turn pace.turn).1 ++ batches) e' := by
      intro batches e' ends
      obtain ⟨h₂, leads₂, rest⟩ := ends.of_leadsOn on
      exact ⟨h₂, leads.trans leads₂, rest⟩
    simp only [Bool.not_true, Bool.false_eq_true, if_false, Emitter.start_of_born t.running.born]
    split
    · have ends := after _ _ (t₁.wait entering now)
      split
      · next isOpen =>
        rw [if_pos isOpen] at ends
        exact ends
      · next closed =>
        rw [if_neg closed] at ends
        exact ends
    · next policy =>
      rw [← List.append_nil (e.turn pace.turn).1]
      split
      · next closed => exact after _ _ (t₁.gone entering (by simpa using closed) now)
      · next isOpen =>
        have isOpen : (e.turn pace.turn).2.isOpen = true := by simpa using isOpen
        split
        · next full => exact after _ _ (t₁.refuse entering isOpen full policy now)
        · next room => exact after _ _ (t₁.put entering isOpen (by simpa using room) now)

/-! ### Requests to the worker -/

structure Asks (m : Emitter.Move Envelope) (task : Nat → Task Envelope) : Prop where
  move : ∀ line : Emitter.History Envelope, line.move m = if line.admits then line.ask task else line
  leads : ∀ h : History, Leads h (h.advance m)
  quiet : ∀ panics, m ≠ .work panics

theorem asks_flush : Asks .flush .flush := ⟨fun _ => rfl, fun h => leads_move h .flush, nofun⟩

theorem asks_shutdown : Asks .shutdown .shutdown :=
  ⟨fun _ => rfl, fun h => leads_move h .shutdown, nofun⟩

theorem Tracks.request {h : History} {c : Courier} {e : Emitter Envelope} (t : h.Tracks c e)
    {m : Emitter.Move Envelope} {task : Nat → Task Envelope} (asks : Asks m task) (now : Instant)
    (pace : Emitter.Pace) :
    ∃ h', LeadsOn h h' ∧
      h'.Tracks (deliverBatches now (e.request pace task).batches c)
        (e.request pace task).emitter := by
  obtain ⟨h₁, leads₁, t₁⟩ := t.turn now (pace.sub 0).turn
  unfold Emitter.request
  rcases turned : e.turn (pace.sub 0).turn with ⟨before, e₁⟩
  rw [turned] at t₁
  by_cases unsent : (!e₁.isOpen || e₁.isFull) = true
  · simp only [unsent, if_true]
    exact ⟨h₁, leads₁, t₁⟩
  · have room : e₁.isOpen = true ∧ e₁.isFull = false := by simpa using unsent
    obtain ⟨line, hline, hemitter, attached⟩ := t₁.line
    dsimp only at hemitter
    subst hemitter
    have admits : line.admits = true := by
      rw [Emitter.History.admits, attached, room.1, room.2]
      rfl
    have asked : line.move m = line.ask task := by rw [asks.move, if_pos admits]
    have running : (line.ask task).emitter.Running := by
      obtain ⟨born, fits⟩ := t₁.running.put room.2 (task line.emitter.tickets)
      exact ⟨born, fits⟩
    have t₂ := t₁.advance hline asks.quiet (by rw [asked]; exact attached)
      (by rw [asked]; exact running)
    rw [asked] at t₂
    obtain ⟨h₃, leads₃, t₃⟩ := t₂.turn now (pace.sub 1).turn
    refine ⟨h₃, leads₁.trans (.trans ⟨asks.leads h₁, offers_advance h₁ m⟩ leads₃), ?_⟩
    simp only [unsent, Bool.false_eq_true, if_false]
    rw [deliverBatches_append]
    exact t₃

theorem Tracks.flush {h : History} {c : Courier} {e : Emitter Envelope} (t : h.Tracks c e)
    (now : Instant) (pace : Emitter.Pace) :
    ∃ h', LeadsOn h h' ∧
      h'.Tracks (deliverBatches now (e.flush pace).batches c) (e.flush pace).emitter := by
  unfold Emitter.flush
  rw [Emitter.start_of_born t.running.born]
  split
  · exact ⟨h, .refl h, t⟩
  · exact t.request asks_flush now pace

theorem Tracks.close {h : History} {c : Courier} {e : Emitter Envelope} (t : h.Tracks c e) :
    Tracks { h with line := h.line.close } c { e with accepting := false, released := true } := by
  obtain ⟨⟨line, hline, rfl, attached⟩, desk, running⟩ := t
  rw [hline]
  exact ⟨⟨_, rfl, rfl, attached⟩, desk, running.born, running.room⟩

theorem Tracks.shutdown {h : History} {c : Courier} {e : Emitter Envelope} (t : h.Tracks c e)
    (now : Instant) (pace : Emitter.Pace) :
    ∃ h', LeadsOn h h' ∧ (h.Holds → Shut h.offers h') ∧
      h'.Tracks (deliverBatches now (e.shutdown pace).batches c) (e.shutdown pace).emitter := by
  unfold Emitter.shutdown
  split
  · next already =>
    obtain ⟨line, hline, rfl, -⟩ := t.line
    have closed : h.line.accepting = false := by
      rw [hline, Line.accepting]
      simpa using already
    exact ⟨h, .refl h, fun i => i.shut_of_closed closed, t⟩
  · have closed : LeadsOn h { h with line := h.line.close } := ⟨leads_move h .close, rfl, rfl⟩
    have t₁ := t.close
    dsimp only
    split
    · next released =>
      refine ⟨_, closed, Holds.shut, ?_⟩
      have same : ({ e with accepting := false, released := true } : Emitter Envelope) =
          { e with accepting := false } := by rw [← released]
      rw [same] at t₁
      exact t₁
    · split
      · next unborn => exact absurd unborn t.running.born
      · obtain ⟨h₂, leads₂, t₂⟩ := t₁.request asks_shutdown now pace
        exact ⟨h₂, closed.trans leads₂, fun i => i.shut.leads leads₂.1, t₂⟩

/-! ### Operations -/

/-- What a history shows of a transport that delivers. -/
inductive Carries (h : History) : Carrier → Prop where
  | immediate {c : Courier} {closed : Bool} {handed : List Envelope}
      (line : h.line = .immediate closed handed) (desk : h.desk.Shows c []) :
      Carries h (.immediate c closed)
  | queued {c : Courier} {e : Emitter Envelope} (tracks : h.Tracks c e) : Carries h (.queued c e)

structure Stands (h : History) (p : Transport) : Prop where
  offers : h.offers = p.offered
  ended : h.stage = .ended
  carries : h.Carries p.carrier

theorem Stands.of_leadsOn {h h' : History} {p : Transport} (s : h.Stands p) (on : LeadsOn h h')
    {c : Courier} {e : Emitter Envelope} (t : h'.Tracks c e) :
    ∃ h', Leads h h' ∧ h'.Stands { p with carrier := .queued c e } :=
  ⟨h', on.1, on.2.1.trans s.offers, on.2.2.trans s.ended, .queued t⟩

theorem offer_some {h : History} {now : Instant} {e kept : Envelope} (ended : h.stage = .ended)
    (attached : h.line.attached = true) (letIn : h.line.letIn now h.desk.limits e = some kept) :
    h.offer now e = { h with offers := h.offers ++ [e], stage := .admitted kept } := by
  simp only [History.offer, ended, attached, letIn, if_true]

theorem offer_none {h : History} {now : Instant} {e : Envelope} (ended : h.stage = .ended)
    (attached : h.line.attached = true) (letIn : h.line.letIn now h.desk.limits e = none) :
    h.offer now e = { h with offers := h.offers ++ [e] } := by
  simp only [History.offer, ended, attached, letIn, if_true]

theorem Stands.sendImmediate {h : History} {p : Transport} {c : Courier} {closed : Bool}
    {handed : List Envelope} (s : h.Stands p) (line : h.line = .immediate closed handed)
    (desk : h.desk.Shows c []) (now : Instant) (e : Envelope) :
    ∃ h', Leads h h' ∧ h'.Stands
      { offered := p.offered ++ [e]
        carrier := .immediate (if closed then c else (c.deliver now e).2) closed } := by
  have offered : h.move (.offer now e) =
      { h with offers := h.offers ++ [e], stage := .admitted e } :=
    offer_some s.ended (by rw [line]; rfl) (by rw [line]; rfl)
  have entered : (h.move (.offer now e)).move .enter =
      { h with offers := h.offers ++ [e], stage := if closed then .ended else .entering e } := by
    rw [offered]
    cases closed <;> simp [move, History.enter, line, Line.accepting]
  have leads := (leads_move h (.offer now e)).trans (leads_move _ .enter)
  rw [entered] at leads
  have offers : h.offers ++ [e] = p.offered ++ [e] := by rw [s.offers]
  cases closed with
  | true => exact ⟨_, leads, offers, rfl, .immediate line desk⟩
  | false =>
    have placed : History.move { h with offers := h.offers ++ [e], stage := .entering e } .put =
        { h with
          offers := h.offers ++ [e], stage := .ended, line := .immediate false (handed ++ [e])
          desk := { h.desk with left := [e] } } := by
      have free : h.desk.isFree = true := desk.isFree
      simp only [move, History.put, line, free, if_true]
    have leads := leads.trans (leads_move _ .put)
    rw [if_neg Bool.false_ne_true, placed] at leads
    have shows : Desk.Shows { h.desk with left := [e] } c [e] :=
      ⟨desk.limits, desk.called, rfl, desk.asking⟩
    obtain ⟨d, leads', shows'⟩ := leads_deliver now (h := History.mk _ _ _ _) shows
    rw [ite_self] at shows'
    exact ⟨_, leads.trans leads', offers, rfl, .immediate rfl shows'⟩

theorem Stands.sendQueued {h : History} {p : Transport} {c : Courier} {em : Emitter Envelope}
    (s : h.Stands p) (t : h.Tracks c em) (now : Instant) (pace : Emitter.Pace) (e : Envelope) :
    ∃ h', Leads h h' ∧
      h'.Stands (send now pace e { p with carrier := .queued c em }).transport := by
  obtain ⟨h₁, ⟨leads₁, offers₁, stage₁⟩, t₁⟩ := t.turn now pace.turn
  simp only [send]
  generalize deliverBatches now (em.turn pace.turn).1 c = c₁ at t₁ ⊢
  have ended := stage₁.trans s.ended
  have offers : h₁.offers ++ [e] = p.offered ++ [e] := by rw [offers₁, s.offers]
  have ⟨line, hline, _, attached⟩ := t₁.line
  have attached : h₁.line.attached = true := by rw [hline]; exact attached
  have letIn : h₁.line.letIn now h₁.desk.limits e = c₁.limits.filter now e := by
    rw [hline, Line.letIn, t₁.desk.limits]
  have leads := leads₁.trans (leads_move h₁ (.offer now e))
  cases filtered : c₁.limits.filter now e with
  | none =>
    rw [move, offer_none ended attached (letIn.trans filtered)] at leads
    exact ⟨_, leads, offers, ended, .queued ⟨t₁.line, t₁.desk, t₁.running⟩⟩
  | some kept =>
    rw [move, offer_some ended attached (letIn.trans filtered)] at leads
    have t₂ : Tracks { h₁ with offers := h₁.offers ++ [e], stage := .admitted kept } c₁ _ :=
      ⟨t₁.line, t₁.desk, t₁.running⟩
    obtain ⟨h₃, leads₃, offers₃, ended₃, t₃⟩ := t₂.enqueue rfl now (pace.sub 0)
    exact ⟨h₃, leads.trans leads₃, offers₃.trans offers, ended₃, .queued t₃⟩

theorem Stands.shutdown {h : History} {p : Transport} (s : h.Stands p) (now : Instant)
    (pace : Emitter.Pace) :
    ∃ h', Leads h h' ∧ h'.Stands (p.shutdown now pace).2.2 ∧ (h.Holds → Shut p.offered h') := by
  obtain ⟨offered, carrier⟩ := p
  obtain rfl : h.offers = offered := s.offers
  cases s.carries with
  | @immediate c closed handed line desk =>
    have same : h.line.close = .immediate true handed := by rw [line, Line.close]
    refine ⟨_, leads_move h .close, ?_, Holds.shut⟩
    rw [move, same]
    exact ⟨rfl, s.ended, .immediate rfl desk⟩
  | queued tracks =>
    obtain ⟨h', on, shut, t'⟩ := tracks.shutdown now pace
    exact ⟨h', on.1, ⟨on.2.1, on.2.2.trans s.ended, .queued t'⟩, shut⟩

/-- One thing to do with a transport, at a time at which all of it happens. -/
inductive Operation where
  | send (now : Instant) (pace : Emitter.Pace) (e : Envelope)
  | turn (now : Instant) (t : Emitter.Turn)
  | flush (now : Instant) (pace : Emitter.Pace)
  | shutdown (now : Instant) (pace : Emitter.Pace)

def Operation.run (p : Transport) : Operation → Transport
  | .send now pace e => (p.send now pace e).transport
  | .turn now t => Transport.turn now t p
  | .flush now pace => (p.flush now pace).2
  | .shutdown now pace => (p.shutdown now pace).2.2

/-- An operation is a number of moves. -/
theorem Stands.run {h : History} {p : Transport} (s : h.Stands p) (o : Operation) :
    ∃ h', Leads h h' ∧ h'.Stands (o.run p) := by
  cases o with
  | shutdown now pace =>
    obtain ⟨h', leads, stands, -⟩ := s.shutdown now pace
    exact ⟨h', leads, stands⟩
  | send now pace e =>
    obtain ⟨offered, carrier⟩ := p
    cases s.carries with
    | @immediate c closed handed line desk =>
      have sent := s.sendImmediate line desk now e
      cases closed <;> exact sent
    | queued tracks => exact s.sendQueued tracks now pace e
  | turn now t =>
    obtain ⟨offered, carrier⟩ := p
    cases s.carries with
    | immediate => exact ⟨h, .refl h, s⟩
    | queued tracks =>
      obtain ⟨h', on, t'⟩ := tracks.turn now t
      exact s.of_leadsOn on t'
  | flush now pace =>
    obtain ⟨offered, carrier⟩ := p
    cases s.carries with
    | immediate => exact ⟨h, .refl h, s⟩
    | queued tracks =>
      obtain ⟨h', on, t'⟩ := tracks.flush now pace
      exact s.of_leadsOn on t'

theorem Stands.runs {h : History} {p : Transport} (s : h.Stands p) (os : List Operation) :
    ∃ h', Leads h h' ∧ h'.Stands (os.foldl Operation.run p) := by
  induction os generalizing h p with
  | nil => exact ⟨h, .refl h, s⟩
  | cons o os ih =>
    obtain ⟨h₁, leads₁, s₁⟩ := s.run o
    obtain ⟨h₂, leads₂, s₂⟩ := ih s₁
    exact ⟨h₂, leads₁.trans leads₂, s₂⟩

/-- The configuration of the emitter of a transport, if it has one. -/
def emitterConfig? (s : Settings) : TransportKind → Option BatchConfig
  | .queued _ => some s.transportConfig
  | _ => none

def delivers : TransportKind → Bool
  | .immediate _ => true
  | .queued _ => true
  | _ => false

theorem stands_new (s : Settings) {kind : TransportKind} (h : delivers kind = true) :
    (start (emitterConfig? s kind)).Stands (new s kind) := by
  cases kind with
  | collecting limited => cases h
  | discarding => cases h
  | immediate r => exact ⟨rfl, rfl, .immediate rfl ⟨rfl, rfl, rfl, rfl⟩⟩
  | queued r =>
    have running : (Emitter.new s.transportConfig : Emitter Envelope).start.Running :=
      ⟨nofun, Nat.zero_le _⟩
    exact ⟨rfl, rfl, .queued ⟨⟨_, rfl, rfl, rfl⟩, ⟨rfl, rfl, rfl, rfl⟩, running⟩⟩

/-- Whatever is done with a transport that delivers, some moves do as well. -/
theorem operations_are_moves (s : Settings) {kind : TransportKind} (h : delivers kind = true)
    (os : List Operation) :
    ∃ moves, (after (emitterConfig? s kind) moves).Stands (os.foldl Operation.run (new s kind)) := by
  obtain ⟨_, ⟨moves, rfl⟩, stands⟩ := (stands_new s h).runs os
  exact ⟨moves, stands⟩

theorem Stands.called {h : History} {p : Transport} (s : h.Stands p) : h.desk.called = p.requests := by
  obtain ⟨offered, carrier⟩ := p
  cases s.carries with
  | immediate _ desk => exact desk.called
  | queued tracks => exact tracks.desk.called

theorem Stands.parts {h : History} {p : Transport} (s : h.Stands p) (i : h.Holds) :
    Parts p.requests p.offered := by
  rw [← s.called, ← s.offers]
  refine i.parts_called.trans (.trans (.of_sublist ?_) i.parts)
  exact List.sublist_append_left ..

end History

/-- Whatever is done with a transport that delivers, its requests follow its offers; after a shutdown
they follow those before it. -/
theorem requests_parts (s : Settings) {kind : TransportKind} (h : History.delivers kind = true)
    (os : List History.Operation) :
    let p := os.foldl History.Operation.run (new s kind)
    Parts p.requests p.offered ∧
      ∀ now pace later,
        Parts ((History.Operation.shutdown now pace :: later).foldl History.Operation.run p).requests
          p.offered := by
  intro p
  obtain ⟨moves, stands⟩ := History.operations_are_moves s h os
  have holds := (History.holds_start (History.emitterConfig? s kind)).moves moves
  refine ⟨stands.parts holds, fun now pace later => ?_⟩
  obtain ⟨h₁, leads₁, stands₁, shut⟩ := stands.shutdown now pace
  obtain ⟨h₂, leads₂, stands₂⟩ := stands₁.runs later
  have shut₂ := (shut holds).leads leads₂
  have holds₂ := holds.leads (leads₁.trans leads₂)
  show Parts (later.foldl History.Operation.run (p.shutdown now pace).2.2).requests p.offered
  rw [← stands₂.called]
  refine holds₂.parts_called.trans (.trans (.of_sublist ?_) shut₂.parts)
  exact List.sublist_append_left ..

end Telemetry.Transport
