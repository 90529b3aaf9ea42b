import Mathlib.Logic.Function.Basic
import Telemetry.Proofs.Hub.Closing
import Telemetry.Proofs.Trace.Header
import Telemetry.Proofs.Trace.Recording

/-! The sampling decision of a trace. It is made once, for the transaction that the trace starts with,
and kept three times: with a transaction or span, in the context of a transaction, and in the header
that hands the trace on. Whoever continues the trace, in whichever process and with whichever client,
finds it there and takes it over. -/

namespace Telemetry

/-! ### Decisions that come with a trace -/

theorem Client.sampleTransaction_decided {c : TransactionContext} {d : Bool}
    (decided : c.sampled = some d) (client : Client) (s : Fresh) :
    client.sampleTransaction c s = (d, s) := by
  have one : (1 : Float32) ≥ 1 := by decide +kernel
  have zero : (0 : Float32) ≤ 0 := by decide +kernel
  have notOne : ¬ (0 : Float32) ≥ 1 := by decide +kernel
  cases d with
  | true =>
    have rate : client.options.transactionRate c = 1 := by
      rw [Settings.transactionRate, decided]
    rw [Client.sampleTransaction, rate]
    simp [Client.sampleAt, Client.sampleWith, keptAtRate, one]
  | false =>
    have rate : client.options.transactionRate c = 0 := by
      rw [Settings.transactionRate, decided]
    rw [Client.sampleTransaction, rate]
    simp [Client.sampleAt, Client.sampleWith, keptAtRate, zero, notOne]

/-! ### What traces keep -/

/-- What a transaction keeps however it is used: its header, the decision in its context and, once
nothing is collected, that nothing is. -/
structure Transaction.Becomes (t t' : Transaction) : Prop where
  traceId : t'.context.traceId = t.context.traceId
  sampled : t'.sampled = t.sampled
  context : t'.context.sampled = t.context.sampled
  data : t.data = none → t'.data = none

theorem Transaction.Becomes.refl (t : Transaction) : t.Becomes t := ⟨rfl, rfl, rfl, id⟩

theorem Transaction.Becomes.trans {t t' t'' : Transaction} (h : t.Becomes t')
    (h' : t'.Becomes t'') : t.Becomes t'' :=
  ⟨h'.traceId.trans h.traceId, h'.sampled.trans h.sampled, h'.context.trans h.context,
    fun none => h'.data (h.data none)⟩

theorem Transaction.becomes_collect (t : Transaction) (f : TransactionData → TransactionData) :
    t.Becomes (t.collect f) :=
  ⟨rfl, rfl, rfl, fun none => by rw [collect, none, Option.map_none]⟩

namespace Traces

/-- What was there is still there, with its decision. -/
structure Continue (s s' : Traces) : Prop where
  transactions : ∀ (i : Nat) (t : Transaction), s.transactions[i]? = some t →
    ∃ t' : Transaction, s'.transactions[i]? = some t' ∧ t.Becomes t'
  spans : ∀ (k : Nat) (r : RunningSpan), s.spans[k]? = some r →
    ∃ r' : RunningSpan, s'.spans[k]? = some r' ∧ r'.span.traceId = r.span.traceId ∧
      r'.sampled = r.sampled

namespace Continue

variable {s s' s'' : Traces}

theorem refl (s : Traces) : Continue s s :=
  ⟨fun _ t ht => ⟨t, ht, .refl t⟩, fun _ r hr => ⟨r, hr, rfl, rfl⟩⟩

theorem trans (h : Continue s s') (h' : Continue s' s'') : Continue s s'' := by
  refine ⟨fun i t ht => ?_, fun k r hr => ?_⟩
  · obtain ⟨t', ht', first⟩ := h.transactions i t ht
    obtain ⟨t'', ht'', second⟩ := h'.transactions i t' ht'
    exact ⟨t'', ht'', first.trans second⟩
  · obtain ⟨r', hr', trace, sampled⟩ := h.spans k r hr
    obtain ⟨r'', hr'', trace', sampled'⟩ := h'.spans k r' hr'
    exact ⟨r'', hr'', trace'.trans trace, sampled'.trans sampled⟩

theorem addTransaction (t : Transaction) : Continue s (s.addTransaction t).2 := by
  refine ⟨fun i t' ht => ⟨t', ?_, .refl t'⟩, fun k r hr => ⟨r, hr, rfl, rfl⟩⟩
  exact (List.getElem?_append_left (List.getElem?_eq_some_iff.mp ht).1).trans ht

theorem addSpan (r : RunningSpan) : Continue s { s with spans := s.spans ++ [r] } := by
  refine ⟨fun i t ht => ⟨t, ht, .refl t⟩, fun k r' hr => ⟨r', ?_, rfl, rfl⟩⟩
  exact (List.getElem?_append_left (List.getElem?_eq_some_iff.mp hr).1).trans hr

theorem updateTransaction (i : Nat) (f : Transaction → Transaction)
    (hf : ∀ t : Transaction, t.Becomes (f t)) : Continue s (s.updateTransaction i f) := by
  refine ⟨fun j t ht => ?_, fun k r hr => ⟨r, hr, rfl, rfl⟩⟩
  by_cases same : i = j
  · subst same
    exact ⟨f t, by simp [Traces.updateTransaction, ht], hf t⟩
  · exact ⟨t, by simp [Traces.updateTransaction, same, ht], .refl t⟩

theorem updateSpan (k : Nat) (f : Span → Span)
    (hf : ∀ r, s.spans[k]? = some r → (f r.span).traceId = r.span.traceId) :
    Continue s (s.updateSpan k f) := by
  refine ⟨fun i t ht => ⟨t, ht, .refl t⟩, fun j r hr => ?_⟩
  by_cases same : k = j
  · subst same
    exact ⟨{ r with span := f r.span }, by simp [Traces.updateSpan, hr], hf r hr, rfl⟩
  · exact ⟨r, by simp [Traces.updateSpan, same, hr], rfl, rfl⟩

theorem setData (n : Node) (key : String) (value : Json) :
    Continue s (s.setData n key value) := by
  cases n with
  | transaction i => exact updateTransaction i _ fun t => t.becomes_collect _
  | span k => exact updateSpan k (fun p => { p with data := p.data.insert key value }) fun _ _ => rfl

theorem setTag (n : Node) (key value : String) : Continue s (s.setTag n key value) := by
  cases n with
  | transaction i => exact updateTransaction i _ fun t => t.becomes_collect _
  | span k => exact updateSpan k (fun p => { p with tags := p.tags.insert key value }) fun _ _ => rfl

theorem setStatus (n : Node) (status : SpanStatus) : Continue s (s.setStatus n status) := by
  cases n with
  | transaction i => exact updateTransaction i _ fun t => ⟨rfl, rfl, rfl, id⟩
  | span k => exact updateSpan k (fun p => { p with status := some status }) fun _ _ => rfl

theorem finishSpan (k : Nat) (now : Instant) : Continue s (s.finishSpan k now) := by
  unfold Traces.finishSpan
  split
  · exact refl s
  · next r hr =>
    split
    · exact refl s
    · have ended : Continue s (s.updateSpan k fun _ => { r.span with timestamp := some now }) := by
        refine updateSpan k _ fun r' hr' => ?_
        obtain rfl : r = r' := Option.some.inj (hr.symm.trans hr')
        rfl
      exact ended.trans (updateTransaction _ _ fun t => t.becomes_collect _)

theorem finishTransaction (i : Nat) (blank : Event) :
    Continue s (s.finishTransaction i blank).2 := by
  have closed : Continue s (s.updateTransaction i fun t => { t with data := none, client := none }) :=
    updateTransaction i _ fun t => ⟨rfl, rfl, rfl, fun _ => rfl⟩
  unfold Traces.finishTransaction
  split
  · exact refl s
  · dsimp only
    split <;> exact closed

theorem startChild {n m : Node} {op description : String} {id : SpanId} {now : Instant}
    (h : s.startChild n op description id now = some (m, s')) : Continue s s' := by
  unfold Traces.startChild at h
  simp only [Option.bind_eq_bind, Option.bind_eq_some_iff, Option.pure_def, Option.some.injEq,
    Prod.mk.injEq] at h
  obtain ⟨parent, -, transaction, -, -, rfl⟩ := h
  exact addSpan _

end Continue

end Traces

theorem Recording.continue_perform (r : Recording) (o : Operation) :
    r.traces.Continue (r.perform o).traces := by
  cases o with
  | start client sampled c id now => exact .addTransaction _
  | startChild n op description id now =>
    rw [perform, Recording.startChild]
    split
    · next started => exact .startChild started
    · exact .refl _
  | setData n key value => exact .setData n key value
  | setTag n key value => exact .setTag n key value
  | setStatus n status => exact .setStatus n status
  | setName i name => exact .updateTransaction i _ fun t => ⟨rfl, rfl, rfl, id⟩
  | setRequest i request => exact .updateTransaction i _ fun t => t.becomes_collect _
  | finishSpan k now => exact .finishSpan k now
  | finishTransaction i blank => exact .finishTransaction i blank

theorem Recording.continue_performAll (r : Recording) (os : List Operation) :
    r.traces.Continue (r.performAll os).traces := by
  induction os generalizing r with
  | nil => exact .refl _
  | cons o os ih => exact (r.continue_perform o).trans (ih _)

namespace Action

variable {α β : Type}

/-! ### Calls and traces -/

/-- A call that leaves the running traces alone. -/
def Untraced (x : Action α) : Prop := ∀ w, (x w).2.traces = w.traces

namespace Untraced

theorem pure (a : α) : Untraced (Pure.pure a : Action α) := fun _ => rfl

theorem bind {x : Action α} {f : α → Action β} (hx : Untraced x) (hf : ∀ a, Untraced (f a)) :
    Untraced (x >>= f) := by
  intro w
  have first := hx w
  rcases ran : x w with ⟨r, w'⟩
  rw [ran] at first
  cases r with
  | done a => rw [bind_done ran, hf a w', first]
  | panicked p => rw [bind_panicked ran, first]
  | blocked => rw [bind_blocked ran, first]

theorem top (h : HubId) : Untraced (top h) := by
  intro w
  cases locked : (w.hub h).locked with
  | true => rw [top_locked locked]
  | false => rw [top_eq locked]

theorem currentHub : Untraced currentHub := by
  refine bind (fun _ => rfl) fun thread => ?_
  split
  · exact pure _
  · refine bind (fun _ => rfl) fun w => ?_
    split
    · exact pure _
    · split
      · exact pure _
      · refine bind (bind (top _) fun _ => fun _ => rfl) fun h => ?_
        exact bind (fun _ => rfl) fun _ => pure _

theorem visit (t : Target) (default : α) {f : HubId → Action α} (hf : ∀ h, Untraced (f h)) :
    Untraced (t.visit default f) := by
  refine bind ?_ fun h => ?_
  · cases t with
    | hub h => exact pure _
    | active => exact bind currentHub fun h => bind (fun _ => rfl) fun _ => pure _
  · cases h with
    | some h => exact hf h
    | none => exact pure _

theorem onClient (c : ClientId) (default : α)
    (f : Instant → Emitter.Pace → Client → Client.Step α) : Untraced (onClient c default f) := by
  intro w
  cases there : w.clients[c]? with
  | none => rw [onClient_none there]
  | some client =>
    rw [onClient_some there]
    rfl

theorem processEvent (c : ClientId) (scope : Option Scope) (hint : EventHint) (e : Event) :
    Untraced (processEvent c scope hint e) := by
  refine bind (onClient c _ _) fun _ => bind (fun _ => rfl) fun client => ?_
  cases client with
  | none => exact pure _
  | some client =>
    refine bind (fun _ => rfl) fun w => bind ?_ fun verdict => bind (fun _ => rfl) fun _ => pure _
    intro w'
    cases current : client.current? with
    | none =>
      rw [process_gone current]
      rfl
    | some p =>
      have attached : client.current?.isSome = true := by rw [current]; rfl
      obtain ⟨r, fresh, -, processed⟩ := process_eq attached c scope hint e w.stack w.traces w'
      rw [processed]
      cases r with
      | error d => rfl
      | ok e =>
        refine (bind (fun _ => rfl) fun now => ?_ : Untraced (afterPrepare c client (.ok e))) _
        split
        · exact pure _
        · exact bind (onClient c _ _) fun _ => pure _

end Untraced

/-! ### Starting and finishing -/

/-- The rest of the start, after the client was looked up. -/
def begin (c : TransactionContext) (id : Option ClientId) : Action Node := do
  let sampled ← match ← id.bindM client? with
    | some client => draw (client.sampleTransaction c)
    | none => pure (c.sampled.getD false)
  let spanId ← draw Fresh.spanId
  let transaction := Transaction.start id sampled c spanId (← now)
  .modifyGet fun w =>
    let (n, traces) := w.traces.addTransaction transaction
    (n, { w with traces })

/-- The decision about a transaction, and the numbers not yet drawn after it. -/
def decision (c : TransactionContext) (id : Option ClientId) (w : World) : Bool × Fresh :=
  match id.bind fun k => w.clients[k]? with
  | some client => client.sampleTransaction c w.fresh
  | none => (c.sampled.getD false, w.fresh)

/-- The transaction that is started. -/
def beginning (c : TransactionContext) (id : Option ClientId) (w : World) : Transaction :=
  let d := decision c id w
  .start id d.1 c d.2.spanId.1 d.2.spanId.2.now

theorem decision_decided {c : TransactionContext} {d : Bool} (decided : c.sampled = some d)
    (id : Option ClientId) (w : World) : (decision c id w).1 = d := by
  unfold decision
  split
  · rw [Client.sampleTransaction_decided decided]
  · rw [decided, Option.getD_some]

theorem begin_eq (c : TransactionContext) (id : Option ClientId) (w : World) :
    begin c id w = (.done (.transaction w.traces.transactions.length),
      { w with
        fresh := (decision c id w).2.spanId.2
        traces := (w.traces.addTransaction (beginning c id w)).2 }) := by
  unfold beginning decision
  cases id with
  | none => rfl
  | some k =>
    have found : (some k).bindM client? w = (.done w.clients[k]?, w) := rfl
    refine (bind_done found).trans ?_
    rw [Option.bind_some]
    cases w.clients[k]? <;> rfl

/-- A transaction that starts takes over the decision that comes with its trace. -/
theorem startTransaction_cases (t : Target) (c : TransactionContext) (w : World) :
    ∃ r w', startTransaction t c w = (r, w') ∧
      (((∀ n, r ≠ .done n) ∧ w'.traces = w.traces) ∨
        ∃ client sampled spanId now, (∀ d, c.sampled = some d → sampled = d) ∧
          (r, w'.traces) = ((w.traces.addTransaction (.start client sampled c spanId now)).map
            .done id)) := by
  let first : Action (Option ClientId) := t.visit none fun h => do return (← top h).client
  have untraced : Untraced first := .visit t none fun h => .bind (.top h) fun _ => .pure _
  have traces := untraced w
  rcases visited : first w with ⟨r, w₁⟩
  rw [visited] at traces
  cases r with
  | panicked p =>
    exact ⟨_, _, (bind_panicked visited : startTransaction t c w = _), .inl ⟨nofun, traces⟩⟩
  | blocked =>
    exact ⟨_, _, (bind_blocked visited : startTransaction t c w = _), .inl ⟨nofun, traces⟩⟩
  | done id =>
    have entered : startTransaction t c w = begin c id w₁ := bind_done visited
    rw [entered, begin_eq, ← traces]
    exact ⟨_, _, rfl, .inr ⟨id, (decision c id w₁).1, _, _,
      fun d decided => decision_decided decided id w₁, rfl⟩⟩

theorem startChild_eq (n : Node) (op description : String) (w : World) :
    startChild n op description w =
      match w.traces.startChild n op description w.fresh.spanId.1 w.fresh.now with
      | some (m, traces) => (.done (some m), { w with fresh := w.fresh.spanId.2, traces })
      | none => (.done none, { w with fresh := w.fresh.spanId.2 }) := by
  let w₁ : World := { w with fresh := w.fresh.spanId.2 }
  have drawn : draw Fresh.spanId w = (.done w.fresh.spanId.1, w₁) := rfl
  have timed : now w₁ = (.done w.fresh.now, w₁) := rfl
  refine (bind_done drawn).trans ((bind_done timed).trans ?_)
  simp only [Run.modifyGet, w₁]
  cases w.traces.startChild n op description w.fresh.spanId.1 w.fresh.now <;> rfl

/-- The event of a finished transaction goes to its client. -/
def sendFinished (sent : Option (ClientId × Event)) : Action Unit :=
  match sent with
  | some (client, event) => do
    let scope := (← top (← currentHub)).scope
    discard <| processEvent client (some scope) .none event
  | none => pure ()

theorem untraced_sendFinished (sent : Option (ClientId × Event)) :
    Untraced (sendFinished sent) := by
  cases sent with
  | none => exact .pure _
  | some sent =>
    exact .bind .currentHub fun h => .bind (.top h) fun _ => .bind (.processEvent _ _ _ _) fun _ =>
      .pure _

theorem finish_transaction (i : Nat) (w : World) :
    let r := w.traces.finishTransaction i (Event.fresh w.fresh).1
    finish (.transaction i) w =
      sendFinished r.1 { w with fresh := (Event.fresh w.fresh).2, traces := r.2 } := by
  intro r
  have drawn : blankEvent w = (.done _, { w with fresh := (Event.fresh w.fresh).2 }) := rfl
  have finished : (Run.modifyGet fun w' : World =>
      ((w'.traces.finishTransaction i (Event.fresh w.fresh).1).1,
        { w' with traces := (w'.traces.finishTransaction i (Event.fresh w.fresh).1).2 }))
      { w with fresh := (Event.fresh w.fresh).2 } =
        (.done r.1, { w with fresh := (Event.fresh w.fresh).2, traces := r.2 }) := rfl
  refine (bind_done drawn).trans ((bind_done finished).trans ?_)
  cases r.1 <;> rfl

theorem continue_finish (n : Node) (w : World) : w.traces.Continue (finish n w).2.traces := by
  cases n with
  | span i => exact .finishSpan i _
  | transaction i =>
    rw [finish_transaction, untraced_sendFinished]
    exact .finishTransaction i _

end Action

/-! ### Nodes of a trace -/

namespace Traces

/-- A node that belongs to a trace and carries its decision, wherever it keeps one. A transaction that
is not sampled collects nothing. -/
def Decided (trace : TraceId) (d : Bool) (s : Traces) : Node → Prop
  | .transaction i => ∃ t, s.transactions[i]? = some t ∧ t.context.traceId = trace ∧
      t.sampled = d ∧ t.context.sampled = some d ∧ (d = false → t.data = none)
  | .span k => ∃ r, s.spans[k]? = some r ∧ r.span.traceId = trace ∧ r.sampled = d

variable {s s' : Traces} {trace : TraceId} {d : Bool} {n : Node}

theorem Decided.continue (h : s.Decided trace d n) (later : s.Continue s') :
    s'.Decided trace d n := by
  cases n with
  | transaction i =>
    obtain ⟨t, there, traceId, sampled, context, data⟩ := h
    obtain ⟨t', there', same⟩ := later.transactions i t there
    exact ⟨t', there', same.traceId.trans traceId, same.sampled.trans sampled,
      same.context.trans context, fun no => same.data (data no)⟩
  | span k =>
    obtain ⟨r, there, traceId, sampled⟩ := h
    obtain ⟨r', there', traceId', sampled'⟩ := later.spans k r there
    exact ⟨r', there', traceId'.trans traceId, sampled'.trans sampled⟩

theorem Decided.header? (h : s.Decided trace d n) :
    ∃ spanId, s.header? n = some ⟨trace, spanId, some d⟩ := by
  cases n with
  | transaction i =>
    obtain ⟨t, there, rfl, rfl, -⟩ := h
    exact ⟨t.context.spanId, by rw [Traces.header?, there, Option.map_some]⟩
  | span k =>
    obtain ⟨r, there, rfl, rfl⟩ := h
    exact ⟨r.span.spanId, by rw [Traces.header?, there, Option.map_some]⟩

theorem Decided.startChild {m : Node} {op description : String} {id : SpanId} {now : Instant}
    (h : s.Decided trace d n) (started : s.startChild n op description id now = some (m, s')) :
    s'.Decided trace d m := by
  obtain ⟨spanId, header⟩ := h.header?
  unfold Traces.startChild at started
  simp only [header, Option.bind_eq_bind, Option.bind_some, Option.bind_eq_some_iff,
    Option.pure_def, Option.some.injEq, Prod.mk.injEq] at started
  obtain ⟨transaction, -, rfl, rfl⟩ := started
  refine ⟨_, List.getElem?_concat_length, rfl, ?_⟩
  cases d <;> rfl

theorem decided_start (s : Traces) (client : Option ClientId) (c : TransactionContext)
    (spanId : SpanId) (now : Instant) :
    (s.addTransaction (.start client d c spanId now)).2.Decided c.traceId d
      (s.addTransaction (.start client d c spanId now)).1 := by
  refine ⟨_, List.getElem?_concat_length, rfl, rfl, rfl, ?_⟩
  rintro rfl
  rfl

/-- What is not sampled is not sent. -/
theorem Decided.finish {w : World} (h : w.traces.Decided trace false n) :
    (Action.finish n w).1 = .done () ∧ (Action.finish n w).2.clients = w.clients := by
  cases n with
  | span k => exact ⟨rfl, rfl⟩
  | transaction i =>
    obtain ⟨t, there, -, -, -, empty⟩ := h
    have unsent : (w.traces.finishTransaction i (Event.fresh w.fresh).1).1 = none := by
      rw [finishTransaction_fst, there, Option.bind_some, empty rfl, Option.bind_none]
    rw [Action.finish_transaction, unsent]
    exact ⟨rfl, rfl⟩

end Traces

end Telemetry
