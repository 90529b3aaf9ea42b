import Telemetry.Proofs.Trace.Header

/-! The trace header of an incoming request, among any other headers. If there are several of that
name, the last one decides, whether it can be read or not. -/

namespace Telemetry.TransactionContext

/-- The values of the trace headers in a list, in whatever letters their name is written. -/
def traceValues (hs : List (String × String)) : List String :=
  (hs.filter fun e => lowerAscii e.1 = TraceHeader.name).map Prod.snd

theorem traceHeader?_eq (hs : List (String × String)) :
    traceHeader? hs = (traceValues hs).getLast?.bind TraceHeader.parse? := by
  unfold traceHeader? traceValues
  induction hs using List.reverseRecOn with
  | nil => rfl
  | append_singleton hs e ih =>
    rw [List.foldl_append, List.foldl_cons, List.foldl_nil, ih, List.filter_append, List.map_append]
    by_cases named : lowerAscii e.1 = TraceHeader.name
    · simp [named]
    · simp [named]

/-- A context that goes on with the trace of a header. -/
structure Continues (c : TransactionContext) (h : TraceHeader) : Prop where
  traceId : c.traceId = h.traceId
  parentSpanId : c.parentSpanId = some h.spanId
  sampled : c.sampled = h.sampled

/-- A context that goes on with no trace. -/
structure Starts (c : TransactionContext) : Prop where
  parentSpanId : c.parentSpanId = none
  sampled : c.sampled = none

theorem Starts.not_continues {c : TransactionContext} (starts : c.Starts) (h : TraceHeader) :
    ¬ c.Continues h :=
  fun continues => nomatch starts.parentSpanId.symm.trans continues.parentSpanId

theorem continues_ofHeaders (name operation : String) {hs : List (String × String)}
    {h : TraceHeader} (found : traceHeader? hs = some h) (s : Fresh) :
    (ofHeaders name operation hs s).1.Continues h := by
  rw [ofHeaders, found]
  exact ⟨rfl, rfl, rfl⟩

theorem starts_ofHeaders (name operation : String) {hs : List (String × String)}
    (missing : traceHeader? hs = none) (s : Fresh) :
    (ofHeaders name operation hs s).1.Starts ∧
      (ofHeaders name operation hs s).1.traceId = s.traceId.1 := by
  rw [ofHeaders, missing]
  exact ⟨⟨rfl, rfl⟩, rfl⟩

/-- No header that can be read is passed over: the context goes on with the trace of one of them, or
there is none. -/
def Heeds (c : TransactionContext) (hs : List (String × String)) : Prop :=
  (∃ v ∈ traceValues hs, ∃ h, TraceHeader.parse? v = some h ∧ c.Continues h) ∨
    (∀ v ∈ traceValues hs, TraceHeader.parse? v = none) ∧ c.Starts

/-- The last trace header decides: if it can be read, its trace goes on, and else a new one starts,
whatever the headers before it say. So those that can be read are passed over if and only if there
are any and the last one cannot be read. -/
theorem ofHeaders_last_decides (name operation : String) (hs : List (String × String)) (s : Fresh) :
    let c := (ofHeaders name operation hs s).1
    let last := (traceValues hs).getLast?.bind TraceHeader.parse?
    (match last with
      | some h => c.Continues h
      | none => c.Starts ∧ c.traceId = s.traceId.1) ∧
    (c.Heeds hs ↔ last.isSome ∨ ∀ v ∈ traceValues hs, TraceHeader.parse? v = none) := by
  intro c last
  have found : traceHeader? hs = last := traceHeader?_eq hs
  cases decides : last with
  | some h =>
    obtain ⟨v, final, read⟩ := Option.bind_eq_some_iff.mp decides
    have continues : c.Continues h := continues_ofHeaders name operation (found.trans decides) s
    exact ⟨continues, fun _ => .inl rfl,
      fun _ => .inl ⟨v, List.mem_of_getLast? final, h, read, continues⟩⟩
  | none =>
    obtain ⟨starts, fresh⟩ := starts_ofHeaders name operation (found.trans decides) s
    refine ⟨⟨starts, fresh⟩, ?_, ?_⟩
    · rintro (⟨v, -, h, -, continues⟩ | ⟨unread, -⟩)
      · exact absurd continues (starts.not_continues h)
      · exact .inr unread
    · rintro (found | unread)
      · cases found
      · exact .inr ⟨unread, starts⟩

/-- A header that cannot be read makes one before it be passed over. -/
theorem ofHeaders_passes_over :
    let hs := [("sentry-trace", "09e04486820349518ac7b5d2adbf6ba5-9cf635fa5b870b3a-1"),
      ("sentry-trace", "garbage")]
    ¬ (ofHeaders "n" "o" hs ⟨.epoch, fun _ => 1, 0⟩).1.Heeds hs := by
  intro hs
  let h : TraceHeader :=
    ⟨.ofNat 32 0x09e04486820349518ac7b5d2adbf6ba5, .ofNat 16 0x9cf635fa5b870b3a, some true⟩
  have values : traceValues hs = [h.text, "garbage"] := by
    have same : "09e04486820349518ac7b5d2adbf6ba5-9cf635fa5b870b3a-1" = h.text :=
      String.toList_inj.mp (by decide)
    have named : lowerAscii "sentry-trace" = TraceHeader.name := lowerAscii_name
    simp [traceValues, hs, named, same]
  have unread : TraceHeader.parse? "garbage" = none := by
    have whole : TraceHeader.splitHyphen (trimList isBlank "garbage".toList) =
        ("garbage".toList, none) := by decide
    rw [TraceHeader.parse?, whole]
    exact Option.bind_fun_none (TraceHeader.id? 32 "garbage".toList)
  have missing : traceHeader? hs = none := by
    rw [traceHeader?_eq, values, List.getLast?_cons_cons, List.getLast?_singleton,
      Option.bind_some, unread]
  obtain ⟨starts, -⟩ := starts_ofHeaders "n" "o" missing ⟨.epoch, fun _ => 1, 0⟩
  rintro (⟨_, _, t, -, continues⟩ | ⟨all, -⟩)
  · exact starts.not_continues t continues
  · have ignored := all h.text (by rw [values]; exact List.mem_cons_self)
    rw [TraceHeader.parse?_text] at ignored
    cases ignored

end Telemetry.TransactionContext
