import Telemetry.Proofs.Emitter.Conservation

/-! What a single move leaves as it was: the tasks sent, the batches taken, the batch on its way. -/

namespace Telemetry.Emitter

variable {α : Type}

theorem isCalling_eq_false_iff {e : Emitter α} : e.isCalling = false ↔ e.inHand = [] := by
  unfold isCalling inHand
  cases e.worker <;> simp

theorem isCalling_resume (e : Emitter α) (next : Resume) : (e.resume next).isCalling = false := by
  cases next with
  | idle | draining | stop => rfl
  | finish r => cases ends : r.ends <;> simp [resume, isCalling, ends]

/-- A step hands on the batch that the worker was at, if there was one. -/
theorem inHand_of_step? {e e' : Emitter α} {batch : Option (List α)}
    (h : e.step? = some (batch, e')) : e.inHand = batch.toList := by
  unfold step? at h
  unfold inHand
  split at h
  · cases h
  · cases h
  · next hw =>
    rw [hw]
    cases h
    rfl
  · next hw =>
    rw [hw]
    split at h <;> cases h <;> rfl
  · next hw =>
    rw [hw]
    cases h
    rfl
  · next hw =>
    rw [hw]
    split at h <;> cases h <;> rfl

theorem isCalling_of_inHand {e : Emitter α} {batch : List α} (h : e.inHand = [batch]) :
    e.isCalling = true := by
  cases calling : e.isCalling with
  | true => rfl
  | false =>
    rw [isCalling_eq_false_iff.mp calling] at h
    cases h

theorem inHand_of_isCalling {e : Emitter α} (calling : e.isCalling = true) :
    ∃ batch, e.inHand = [batch] := by
  unfold isCalling at calling
  unfold inHand
  split at calling
  · next batch _ _ => exact ⟨batch, rfl⟩
  · cases calling

namespace History

theorem sent_move (h : History α) (m : Move α) :
    ∃ more, (h.move m).sent = h.sent ++ more := by
  cases m with
  | item _ | flush | shutdown =>
    simp only [History.move]
    split
    · exact ⟨_, rfl⟩
    · exact ⟨[], (List.append_nil _).symm⟩
  | work panics =>
    refine ⟨[], ?_⟩
    show (h.work panics).sent = _
    unfold History.work
    split <;> exact (List.append_nil _).symm
  | expire | leave => exact ⟨[], (List.append_nil _).symm⟩
  | disconnect =>
    simp only [History.move]
    split <;> exact ⟨[], (List.append_nil _).symm⟩

theorem items_sent_move (h : History α) {m : Move α} (other : ∀ a, m ≠ .item a) :
    items (h.move m).sent = items h.sent := by
  cases m with
  | item a => exact absurd rfl (other a)
  | flush | shutdown =>
    simp only [History.move]
    split
    · show items (h.sent ++ [_]) = _
      rw [items_append]
      exact List.append_nil _
    · rfl
  | work panics =>
    show items (h.work panics).sent = _
    unfold History.work
    split <;> rfl
  | expire | leave => rfl
  | disconnect =>
    simp only [History.move]
    split <;> rfl

theorem taken_move {h : History α} (waiting : h.emitter.isCalling = false) (m : Move α) :
    (h.move m).taken = h.taken := by
  cases m with
  | item _ | flush | shutdown | disconnect =>
    simp only [History.move]
    split <;> rfl
  | work panics =>
    show (h.work panics).taken = _
    unfold History.work
    split
    · rfl
    · rfl
    · next hs =>
      rw [isCalling_of_inHand (inHand_of_step? hs)] at waiting
      cases waiting
  | expire | leave => rfl

/-- The end of a call leaves what was handed on. -/
theorem handed_work {h : History α} (calling : h.emitter.isCalling = true) (panics : Bool) :
    (h.work panics).handed = h.handed ∧ (h.work panics).emitter.isCalling = false := by
  obtain ⟨batch, next, hw⟩ : ∃ batch next, h.emitter.worker = .calling batch next := by
    unfold isCalling at calling
    split at calling
    · next batch next hw => exact ⟨batch, next, hw⟩
    · cases calling
  have step : h.emitter.step? = some (some batch, h.emitter.resume next) := by
    unfold step?
    rw [hw]
  have after : h.work panics =
      { h with emitter := h.emitter.resume next, calls := h.calls ++ [⟨batch, panics⟩] } := by
    unfold History.work
    rw [step]
  have stopped := isCalling_resume h.emitter next
  rw [after]
  refine ⟨?_, stopped⟩
  simp only [handed, taken, List.map_append, isCalling_eq_false_iff.mp stopped]
  simp [inHand, hw]

/-- While the worker hands on a batch, only the end of the call gets it any further. -/
theorem worker_move {h : History α} (calling : h.emitter.isCalling = true) {m : Move α}
    (other : ∀ panics, m ≠ .work panics) :
    (h.move m).calls = h.calls ∧ (h.move m).emitter.worker = h.emitter.worker := by
  have busy : h.emitter.worker ≠ .idle := by
    intro idle
    rw [isCalling, idle] at calling
    cases calling
  cases m with
  | item _ | flush | shutdown =>
    simp only [History.move]
    split <;> exact ⟨rfl, rfl⟩
  | work panics => exact absurd rfl (other panics)
  | leave => exact ⟨rfl, rfl⟩
  | expire =>
    simp only [History.move, Emitter.expire]
    split
    · next idle _ => exact absurd idle busy
    · exact ⟨trivial, rfl⟩
  | disconnect =>
    simp only [History.move, Emitter.disconnect]
    split
    · exact ⟨rfl, rfl⟩
    · split
      · next idle _ => exact absurd idle busy
      · exact ⟨rfl, rfl⟩

/-- What the owner of an emitter keeps in it plays no part in the invariant. -/
theorem Holds.owner {h : History α} (i : h.Holds) (accepting released : Bool) (dropped : Nat) :
    Holds { h with emitter := { h.emitter with accepting, released, dropped } } :=
  ⟨⟨i.accounted.split, i.accounted.sizes, i.accounted.distinct, i.accounted.apart,
    i.accounted.given, i.accounted.answers⟩, i.room, i.empty⟩

theorem Holds.handed_first {h : History α} (i : h.Holds) : h.handed.flatten <+: items h.sent := by
  obtain ⟨received, hsplit, hitems⟩ := i.accounted.split
  refine ⟨h.emitter.pending ++ items h.emitter.queue, ?_⟩
  rw [hsplit, items_append, hitems, handed, List.append_assoc]

end History

end Telemetry.Emitter
