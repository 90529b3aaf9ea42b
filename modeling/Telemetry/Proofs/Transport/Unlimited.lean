import Telemetry.Transport.Basic

/-! Transports that meet no rate limits. If no answer to a request brings a limit, nothing is ever
limited. -/

namespace Telemetry

/-- Nothing is limited, and no answer to a request brings a limit. -/
structure Courier.Unlimited (c : Courier) : Prop where
  limits : c.limits = .none
  answers : ∀ now n e, Courier.learn now .none (c.requester n e) = .none

/-- No category is ever limited, and no caller meets a panic of the code that makes requests. -/
def Transport.Steady (p : Transport) : Prop :=
  match p.carrier with
  | .collecting limited => ∀ k, limited k = false
  | .discarding => True
  | .immediate courier _ => courier.Unlimited ∧ ∀ n e, courier.requester n e ≠ .panicked
  | .queued courier _ => courier.Unlimited

namespace Courier.Unlimited

variable {c : Courier}

theorem deliver (h : c.Unlimited) (now : Instant) (e : Envelope) :
    (c.deliver now e).2.Unlimited ∧ (c.deliver now e).2.requester = c.requester := by
  unfold Courier.deliver
  split
  · exact ⟨h, rfl⟩
  · refine ⟨⟨?_, h.answers⟩, rfl⟩
    dsimp only
    rw [h.limits]
    exact h.answers now _ _

theorem deliverAll (h : c.Unlimited) (now : Instant) (es : List Envelope) :
    (Courier.deliverAll now es c).Unlimited := by
  induction es generalizing c with
  | nil => exact h
  | cons e es ih =>
    have next := (h.deliver now e).1
    unfold Courier.deliverAll
    split
    · next made => rwa [made] at next
    · next made =>
      rw [made] at next
      exact ih next

theorem deliverBatches (h : c.Unlimited) (now : Instant) (batches : List (List Envelope)) :
    (Transport.deliverBatches now batches c).Unlimited := by
  unfold Transport.deliverBatches
  induction batches generalizing c with
  | nil => exact h
  | cons batch batches ih => exact ih (h.deliverAll now batch)

end Courier.Unlimited

theorem RateLimits.isLimited_none (now : Instant) (k : Category) :
    RateLimits.none.isLimited now k = false := by
  simp [RateLimits.isLimited, RateLimits.disabled, RateLimits.own, RateLimits.none]

namespace Transport.Steady

variable {p : Transport} {now : Instant}

theorem isLimited (h : p.Steady) (now : Instant) (k : Category) : p.isLimited now k = false := by
  obtain ⟨offered, carrier⟩ := p
  cases carrier with
  | collecting limited => exact h k
  | discarding => rfl
  | immediate courier closed =>
    simp [Transport.isLimited, h.1.limits, RateLimits.isLimited_none]
  | queued courier emitter =>
    simp [Transport.isLimited, Courier.Unlimited.limits h, RateLimits.isLimited_none]

theorem turn (h : p.Steady) (t : Emitter.Turn) : (p.turn now t).Steady := by
  obtain ⟨offered, carrier⟩ := p
  cases carrier with
  | queued courier emitter => exact Courier.Unlimited.deliverBatches h now _
  | collecting | discarding | immediate => exact h

theorem flush (h : p.Steady) (pace : Emitter.Pace) : (p.flush now pace).2.Steady := by
  obtain ⟨offered, carrier⟩ := p
  cases carrier with
  | queued courier emitter => exact Courier.Unlimited.deliverBatches h now _
  | collecting | discarding | immediate => exact h

theorem send (h : p.Steady) (now : Instant) (pace : Emitter.Pace) (e : Envelope) :
    (p.send now pace e).transport.Steady ∧ (p.send now pace e).panicked = false := by
  obtain ⟨offered, carrier⟩ := p
  cases carrier with
  | collecting limited => exact ⟨h, rfl⟩
  | discarding => exact ⟨h, rfl⟩
  | immediate courier closed =>
    obtain ⟨unlimited, calm⟩ := h
    cases closed with
    | true => exact ⟨⟨unlimited, calm⟩, rfl⟩
    | false =>
      obtain ⟨next, same⟩ := unlimited.deliver now e
      refine ⟨⟨next, fun n e' => ?_⟩, ?_⟩
      · show (courier.deliver now e).2.requester n e' ≠ _
        rw [same]
        exact calm n e'
      · show decide ((courier.deliver now e).1 = .done .panicked) = false
        unfold Courier.deliver
        split
        · rfl
        · simpa using calm _ _
  | queued courier emitter =>
    have turned := Courier.Unlimited.deliverBatches h now (emitter.turn pace.turn).1
    unfold Transport.send
    dsimp only
    split
    · exact ⟨turned, rfl⟩
    · exact ⟨turned.deliverBatches now _, rfl⟩

end Transport.Steady

end Telemetry
