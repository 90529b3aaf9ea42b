import Telemetry.Proofs.Trace.Lineage

/-! What a sampled transaction collects. Whatever is done to the nodes of its tree, its first finish
hands its client one event, which lists the spans of the tree that were finished before, in the
order of their first finish and up to the limit; later finishes hand over nothing. -/

namespace Telemetry.Recording

/-- The spans of a transaction that were finished, in order, up to the limit. -/
def listed (r : Recording) (i : Nat) : List Finished :=
  (r.finished.filter fun f => r.traces.root? (.span f.number) == some i).take maxSpans

/-- The events of a transaction that were handed to clients. -/
def events (r : Recording) (i : Nat) : List Handed := r.handed.filter fun e => e.transaction == i

/-- A transaction that is not finished has recorded what is listed, for its client. -/
structure Open (r : Recording) (i : Nat) (c : ClientId) (h : TraceHeader) : Prop where
  state : r.traces.outline.transactions[i]? =
    some ⟨some c, h, some ((r.listed i).map Finished.span)⟩
  events : r.events i = []

/-- A transaction that was finished has nothing recorded. -/
structure Closed (r : Recording) (i : Nat) (sent : List Handed) : Prop where
  state : ∃ t, r.traces.outline.transactions[i]? = some t ∧ t.recorded = none
  events : r.events i = sent

/-! ### The list -/

/-- The transaction of a finished span stays the same. -/
theorem Holds.root_finished {r r' : Recording} (i : r.Holds)
    (e : Extends r.traces.outline r'.traces.outline) {f : Finished} (hf : f ∈ r.finished) :
    r'.traces.root? (.span f.number) = r.traces.root? (.span f.number) := by
  obtain ⟨s, hs, -⟩ := i.noted f hf
  obtain ⟨s', hs', ht, -⟩ := e.spans f.number s hs
  rw [Traces.root?_of_outline hs', Traces.root?_of_outline hs, ht]

theorem Holds.listed_eq {r : Recording} (i : r.Holds) (r' : Recording)
    (e : Extends r.traces.outline r'.traces.outline) (hf : r'.finished = r.finished) (j : Nat) :
    r'.listed j = r.listed j := by
  rw [listed, listed, hf]
  congr 1
  refine List.filter_congr fun f hm => ?_
  rw [i.root_finished e hm]

/-- One more element in the end of a list of which only the front counts. -/
theorem take_snoc {α : Type} (xs : List α) (x : α) (n : Nat) :
    (xs ++ [x]).take n = if (xs.take n).length < n then xs.take n ++ [x] else xs.take n := by
  rw [List.length_take]
  split
  · next h =>
    have hx : xs.length < n := by omega
    rw [List.take_of_length_le (Nat.le_of_lt hx), List.take_of_length_le (by simp; omega)]
  · next h => exact List.take_append_of_le_length (by omega)

theorem record_some (client : Option ClientId) (h : TraceHeader) (spans : List Span) (s : Span) :
    TransactionOutline.record s ⟨client, h, some spans⟩ =
      ⟨client, h, some (if spans.length < maxSpans then spans ++ [s] else spans)⟩ := rfl

/-- Finishing a transaction hands over the event that it turns into, if any. -/
theorem handed_finishTransaction (r : Recording) (j : Nat) (blank : Event) :
    (r.finishTransaction j blank).handed = r.handed ++
      (r.traces.finishTransaction j blank).1.toList.map fun x => ⟨j, x.1, x.2⟩ := rfl

theorem events_finishTransaction (r : Recording) (i j : Nat) (blank : Event) :
    (r.finishTransaction j blank).events i = r.events i ++
      ((r.traces.finishTransaction j blank).1.toList.map fun x => ⟨j, x.1, x.2⟩).filter
        fun x : Handed => x.transaction == i := by
  rw [events, handed_finishTransaction, List.filter_append, events]

/-! ### Operations -/

theorem Open.edit {r : Recording} {i : Nat} {c : ClientId} {h : TraceHeader} (hr : r.Holds)
    (w : r.Open i c h) {f : Traces → Traces} (hf : (f r.traces).outline = r.traces.outline) :
    (r.edit f).Open i c h := by
  refine ⟨?_, w.events⟩
  rw [hr.listed_eq (r.edit f) (extends_edit hf) rfl i, Recording.edit, hf]
  exact w.state

theorem Open.start {r : Recording} {i : Nat} {c : ClientId} {h : TraceHeader} (hr : r.Holds)
    (w : r.Open i c h) (t : Transaction) :
    Open (r.edit fun s => (s.addTransaction t).2) i c h := by
  have ho := Traces.outline_addTransaction r.traces t
  refine ⟨?_, w.events⟩
  rw [hr.listed_eq (r.edit fun s => (s.addTransaction t).2) (extends_start r t) rfl i]
  simp only [Recording.edit, ho]
  rw [List.getElem?_append_left (List.getElem?_eq_some_iff.mp w.state).1, w.state]

theorem Open.startChild {r : Recording} {i : Nat} {c : ClientId} {h : TraceHeader} (hr : r.Holds)
    (w : r.Open i c h) (n : Node) (op description : String) (id : SpanId) (now : Instant) :
    (r.startChild n op description id now).Open i c h := by
  unfold Recording.startChild
  split
  · next m traces hs =>
    obtain ⟨_, _, -, -, ho⟩ := Traces.outline_startChild hs
    refine ⟨?_, w.events⟩
    rw [hr.listed_eq { r with traces, parents := r.parents ++ [n] } (extends_startChild hs) rfl i,
      ho]
    exact w.state
  · exact w

/-- A span finished for the first time is recorded by its transaction and no other. -/
theorem Open.finishSpan {r : Recording} {i : Nat} {c : ClientId} {h : TraceHeader} (hr : r.Holds)
    (w : r.Open i c h) (k : Nat) (now : Instant) : (r.finishSpan k now).Open i c h := by
  rcases finishSpan_cases hr k now with he | ⟨s, hs, -, hf, ho⟩
  · rw [he]
    exact w
  · have e := extends_finishSpan r k now
    have hroot : (r.finishSpan k now).traces.root? (.span k) = some s.transaction := by
      rw [Traces.root?_eq_outline]
      exact e.root? (by simp [Outline.root?, hs, RunningSpan.outline])
    have old : (r.finished.filter fun f =>
          (r.finishSpan k now).traces.root? (.span f.number) == some i) =
        r.finished.filter fun f => r.traces.root? (.span f.number) == some i :=
      List.filter_congr fun f hm => by rw [hr.root_finished e hm]
    refine ⟨?_, w.events⟩
    rw [listed, hf, List.filter_append, old, ho]
    by_cases hi : s.transaction = i
    · subst hi
      rw [List.filter_cons_of_pos (by simp [hroot]), List.filter_nil, take_snoc,
        List.getElem?_modify_eq, w.state, Option.map_eq_map, Option.map_some, record_some,
        List.length_map]
      change _ = some (TransactionOutline.mk _ _ (some (List.map _
        (if (r.listed s.transaction).length < maxSpans then
          r.listed s.transaction ++ [⟨k, { s.span with timestamp := some now }⟩]
        else r.listed s.transaction))))
      split
      · rw [List.map_append, List.map_singleton]
      · rfl
    · rw [List.filter_cons_of_neg (by simp [hroot, hi]), List.filter_nil, List.append_nil,
        List.getElem?_modify_ne _ _ hi]
      exact w.state

/-- Other transactions are finished without a trace in this one. -/
theorem Open.finishOther {r : Recording} {i j : Nat} {c : ClientId} {h : TraceHeader}
    (hr : r.Holds) (w : r.Open i c h) (hj : j ≠ i) (blank : Event) :
    (r.finishTransaction j blank).Open i c h := by
  have ho := Traces.outline_finishTransaction r.traces j blank
  have e := extends_finishTransaction r j blank
  refine ⟨?_, ?_⟩
  · rw [hr.listed_eq (r.finishTransaction j blank) e rfl i]
    show (r.traces.finishTransaction j blank).2.outline.transactions[i]? = _
    rw [ho, List.getElem?_modify_ne _ _ hj]
    exact w.state
  · rw [events_finishTransaction, w.events, List.nil_append, List.filter_eq_nil_iff]
    intro x hx
    obtain ⟨y, -, rfl⟩ := List.mem_map.mp hx
    simpa using hj

/-- A transaction stays open until it is finished. -/
theorem Open.perform {r : Recording} {i : Nat} {c : ClientId} {h : TraceHeader} (hr : r.Holds)
    (w : r.Open i c h) (op : Operation) (hop : ∀ blank, op ≠ .finishTransaction i blank) :
    (r.perform op).Open i c h := by
  cases op with
  | start client sampled c id now => exact w.start hr _
  | startChild n op description id now => exact w.startChild hr n op description id now
  | setData n key value => exact w.edit hr (Traces.outline_setData _ n key value)
  | setTag n key value => exact w.edit hr (Traces.outline_setTag _ n key value)
  | setStatus n status => exact w.edit hr (Traces.outline_setStatus _ n status)
  | setName j name => exact w.edit hr (Traces.outline_setName _ j name)
  | setRequest j request => exact w.edit hr (Traces.outline_setRequest _ j request)
  | finishSpan k now => exact w.finishSpan hr k now
  | finishTransaction j blank =>
    exact w.finishOther hr (fun hj => hop blank (by rw [hj])) blank

theorem Open.performAll {r : Recording} {i : Nat} {c : ClientId} {h : TraceHeader} (hr : r.Holds)
    (w : r.Open i c h) (ops : List Operation) (hops : ∀ blank, .finishTransaction i blank ∉ ops) :
    (r.performAll ops).Open i c h := by
  induction ops generalizing r with
  | nil => exact w
  | cons op ops ih =>
    refine ih (hr.perform op) (w.perform hr op fun blank he => ?_) fun blank hm => ?_
    · exact hops blank (he ▸ List.mem_cons_self ..)
    · exact hops blank (List.mem_cons_of_mem _ hm)

/-! ### The event -/

/-- The first finish of a transaction hands its client one event with what is listed. -/
theorem Open.finish {r : Recording} {i : Nat} {c : ClientId} {h : TraceHeader}
    (w : r.Open i c h) (blank : Event) :
    ∃ e : Event, (r.finishTransaction i blank).Closed i [⟨i, c, e⟩] ∧ e.kind = .transaction ∧
      e.spans = (r.listed i).map Finished.span ∧
      ∃ t, e.traceContext? = some t ∧ t.traceId = h.traceId ∧ t.spanId = h.spanId := by
  have ht := w.state
  rw [Traces.outline_transactions, List.getElem?_map, Option.map_eq_some_iff] at ht
  obtain ⟨t, ht, ho⟩ := ht
  have hc : t.client = some c := congrArg TransactionOutline.client ho
  have hd : t.data.map TransactionData.spans = some ((r.listed i).map Finished.span) :=
    congrArg TransactionOutline.recorded ho
  obtain ⟨d, hd, hspans⟩ := Option.map_eq_some_iff.mp hd
  have sent : (r.traces.finishTransaction i blank).1 = some (c, t.event blank d) := by
    simp [Traces.finishTransaction_fst, ht, hd, hc]
  refine ⟨t.event blank d, ⟨?_, ?_⟩, rfl, hspans, t.context, rfl,
    congrArg (·.header.traceId) ho, congrArg (·.header.spanId) ho⟩
  · refine ⟨TransactionOutline.close t.outline, ?_, rfl⟩
    show (r.traces.finishTransaction i blank).2.outline.transactions[i]? = _
    rw [Traces.outline_finishTransaction, List.getElem?_modify_eq]
    simp [ht]
  · rw [events_finishTransaction, w.events, sent]
    simp

/-- After its first finish a transaction hands over nothing more. -/
theorem Closed.perform {r : Recording} {i : Nat} {sent : List Handed} (hr : r.Holds)
    (w : r.Closed i sent) (op : Operation) : (r.perform op).Closed i sent := by
  obtain ⟨⟨t, ht, hn⟩, hs⟩ := w
  have edit : ∀ f : Traces → Traces, (f r.traces).outline = r.traces.outline →
      (r.edit f).Closed i sent := fun f hf => ⟨⟨t, by rw [Recording.edit, hf]; exact ht, hn⟩, hs⟩
  cases op with
  | start client sampled c id now =>
    refine ⟨⟨t, ?_, hn⟩, hs⟩
    show ((r.traces.addTransaction _).2.outline).transactions[i]? = _
    rw [Traces.outline_addTransaction,
      List.getElem?_append_left (List.getElem?_eq_some_iff.mp ht).1, ht]
  | startChild n op description id now =>
    show (r.startChild n op description id now).Closed i sent
    unfold Recording.startChild
    split
    · next m traces hc =>
      obtain ⟨_, _, -, -, ho⟩ := Traces.outline_startChild hc
      exact ⟨⟨t, by rw [ho]; exact ht, hn⟩, hs⟩
    · exact ⟨⟨t, ht, hn⟩, hs⟩
  | setData n key value => exact edit _ (Traces.outline_setData _ n key value)
  | setTag n key value => exact edit _ (Traces.outline_setTag _ n key value)
  | setStatus n status => exact edit _ (Traces.outline_setStatus _ n status)
  | setName j name => exact edit _ (Traces.outline_setName _ j name)
  | setRequest j request => exact edit _ (Traces.outline_setRequest _ j request)
  | finishSpan k now =>
    rcases finishSpan_cases hr k now with he | ⟨s, -, -, -, ho⟩
    · rw [Recording.perform, he]
      exact ⟨⟨t, ht, hn⟩, hs⟩
    · refine ⟨?_, hs⟩
      rw [Recording.perform, ho, List.getElem?_modify, ht]
      refine ⟨_, rfl, ?_⟩
      split <;> simp [TransactionOutline.record, hn]
  | finishTransaction j blank =>
    have ho := Traces.outline_finishTransaction r.traces j blank
    refine ⟨?_, ?_⟩
    · show ∃ t', (r.traces.finishTransaction j blank).2.outline.transactions[i]? = some t' ∧ _
      rw [ho, List.getElem?_modify, ht]
      refine ⟨_, rfl, ?_⟩
      split <;> simp [TransactionOutline.close, hn]
    · rw [Recording.perform, events_finishTransaction, hs, List.append_right_eq_self,
        List.filter_eq_nil_iff]
      intro x hx
      obtain ⟨y, hy, rfl⟩ := List.mem_map.mp hx
      rw [Option.mem_toList, Traces.finishTransaction_fst] at hy
      intro hj
      obtain rfl : j = i := by simpa using hj
      rw [Traces.outline_transactions, List.getElem?_map, Option.map_eq_some_iff] at ht
      obtain ⟨u, hu, rfl⟩ := ht
      have hd : u.data = none := Option.map_eq_none_iff.mp hn
      simp [hu, hd] at hy

theorem Closed.performAll {r : Recording} {i : Nat} {sent : List Handed} (hr : r.Holds)
    (w : r.Closed i sent) (ops : List Operation) : (r.performAll ops).Closed i sent := by
  induction ops generalizing r with
  | nil => exact w
  | cons op ops ih => exact ih (hr.perform op) (w.perform hr op)

/-! ### Every run -/

/-- Events are only handed over for transactions that were started. -/
theorem handed_perform {r : Recording}
    (h : ∀ x ∈ r.handed, x.transaction < r.traces.outline.transactions.length)
    (op : Operation) :
    ∀ x ∈ (r.perform op).handed,
      x.transaction < (r.perform op).traces.outline.transactions.length := by
  have grows := (extends_perform r op).length_le
  have old : (r.perform op).handed = r.handed → ∀ x ∈ (r.perform op).handed,
      x.transaction < (r.perform op).traces.outline.transactions.length := by
    intro he x hx
    rw [he] at hx
    exact Nat.lt_of_lt_of_le (h x hx) grows
  cases op with
  | finishTransaction j blank =>
    intro x hx
    rw [Recording.perform, handed_finishTransaction] at hx
    rcases List.mem_append.mp hx with hx | hx
    · exact Nat.lt_of_lt_of_le (h x hx) grows
    · obtain ⟨y, hy, rfl⟩ := List.mem_map.mp hx
      rw [Option.mem_toList, Traces.finishTransaction_fst] at hy
      obtain ⟨t, ht, -⟩ := Option.bind_eq_some_iff.mp hy
      have hj : j < r.traces.transactions.length := (List.getElem?_eq_some_iff.mp ht).1
      rw [Traces.outline_transactions, List.length_map] at grows
      exact Nat.lt_of_lt_of_le hj grows
  | startChild n op description id now =>
    refine old ?_
    rw [Recording.perform, Recording.startChild]
    split <;> rfl
  | _ => exact old rfl

theorem handed_performAll (ops : List Operation) :
    ∀ x ∈ (empty.performAll ops).handed,
      x.transaction < (empty.performAll ops).traces.outline.transactions.length := by
  have run : ∀ (r : Recording),
      (∀ x ∈ r.handed, x.transaction < r.traces.outline.transactions.length) →
      ∀ x ∈ (r.performAll ops).handed,
        x.transaction < (r.performAll ops).traces.outline.transactions.length := by
    induction ops with
    | nil => exact fun _ h => h
    | cons op ops ih =>
      intro r h
      exact ih (r.perform op) (handed_perform h op)
  exact run empty fun _ hx => by cases hx

/-- A transaction is open when it is started. -/
theorem open_start {r : Recording} (hr : r.Holds)
    (hh : ∀ x ∈ r.handed, x.transaction < r.traces.outline.transactions.length) (c : ClientId)
    (ctx : TransactionContext) (id : SpanId) (now : Instant) :
    (r.perform (.start (some c) true ctx id now)).Open r.traces.transactions.length c
      ⟨ctx.traceId, id, some true⟩ := by
  have ho := Traces.outline_addTransaction r.traces (.start (some c) true ctx id now)
  have none : (r.perform (.start (some c) true ctx id now)).listed
      r.traces.transactions.length = [] := by
    rw [listed, List.filter_eq_nil_iff.mpr, List.take_nil]
    intro f hf hroot
    obtain ⟨s, hs, -⟩ := hr.noted f hf
    obtain ⟨t, ht, -⟩ := hr.trace f.number hs
    have hlt := (List.getElem?_eq_some_iff.mp ht).1
    rw [hr.root_finished (extends_perform r (.start (some c) true ctx id now)) hf,
      Traces.root?_of_outline hs] at hroot
    rw [Traces.outline_transactions, List.length_map] at hlt
    have : s.transaction = r.traces.transactions.length := by simpa using hroot
    omega
  refine ⟨?_, ?_⟩
  · rw [none]
    show (r.traces.addTransaction _).2.outline.transactions[r.traces.transactions.length]? = _
    rw [ho]
    simp [Transaction.outline, Transaction.start]
  · refine List.filter_eq_nil_iff.mpr fun x hx he => ?_
    have hlt := hh x hx
    rw [Traces.outline_transactions, List.length_map] at hlt
    have : x.transaction = r.traces.transactions.length := by simpa using he
    omega

/-- A finished span is in the tree of the transaction that it has. -/
theorem Holds.root_iff_under {r : Recording} (hr : r.Holds) {f : Finished} (hf : f ∈ r.finished)
    (i : Nat) : r.traces.root? (.span f.number) = some i ↔ Under r i (.span f.number) := by
  obtain ⟨s, hs, -⟩ := hr.noted f hf
  refine ⟨fun h => ?_, fun u => ?_⟩
  · obtain rfl : s.transaction = i := Option.some.inj ((Traces.root?_of_outline hs).symm.trans h)
    exact hr.under f.number hs
  · rw [Traces.root?_eq_outline]
    exact hr.root_of_under u

/-- What the event of a transaction says of the recording in which it was first finished. -/
structure Reports (r : Recording) (i : Nat) (t : TraceContext) (e : Event) : Prop where
  kind : e.kind = .transaction
  context : e.traceContext? = some t
  /-- The spans are those of the tree that were finished, the first one first, up to the limit. -/
  spans : e.spans = (r.listed i).map Finished.span
  tree : ∀ f ∈ r.finished, r.traces.root? (.span f.number) = some i ↔ r.Under i (.span f.number)
  /-- No span is listed twice. -/
  once : ((r.listed i).map Finished.number).Nodup
  trace : ∀ f ∈ r.listed i, f.span.traceId = t.traceId
  /-- The parent of a listed span is the node on which it was started. -/
  parent : ∀ f ∈ r.listed i, ∃ n h, r.parents[f.number]? = some n ∧
    r.traces.header? n = some h ∧ f.span.parentSpanId = some h.spanId
  /-- From parent to parent one gets to the transaction, whose identifier is the one reported. -/
  root : (∀ f ∈ r.listed i, r.Under i (.span f.number)) ∧
    r.traces.header? (.transaction i) = some ⟨t.traceId, t.spanId, some true⟩

theorem Holds.reports {r : Recording} (hr : r.Holds) {i : Nat} {c : ClientId} {t : TraceContext}
    (w : r.Open i c ⟨t.traceId, t.spanId, some true⟩) {e : Event} (kind : e.kind = .transaction)
    (context : e.traceContext? = some t) (spans : e.spans = (r.listed i).map Finished.span) :
    r.Reports i t e := by
  have mem : ∀ f ∈ r.listed i,
      f ∈ r.finished ∧ r.traces.root? (.span f.number) = some i := fun f hf => by
    simpa using List.mem_filter.mp (List.mem_of_mem_take hf)
  refine ⟨kind, context, spans, fun f hf => hr.root_iff_under hf i, ?_, ?_, ?_, fun f hf => ?_, ?_⟩
  · exact hr.distinct.sublist
      (((List.take_sublist _ _).trans List.filter_sublist).map Finished.number)
  · intro f hf
    obtain ⟨hm, hroot⟩ := mem f hf
    obtain ⟨s, hs, ht, -⟩ := hr.noted f hm
    obtain ⟨u, hu, hut⟩ := hr.trace f.number hs
    obtain rfl : s.transaction = i :=
      Option.some.inj ((Traces.root?_of_outline hs).symm.trans hroot)
    obtain rfl := Option.some.inj (hu.symm.trans w.state)
    rw [ht, ← hut]
  · intro f hf
    obtain ⟨s, hs, -, hp⟩ := hr.noted f (mem f hf).1
    obtain ⟨n, hn⟩ := hr.parent hs
    obtain ⟨-, h, hh, -, hps, -⟩ := hr.lineage f.number s n hs hn
    exact ⟨n, h, hn, by rw [Traces.header?_eq_outline, hh], by rw [hp, hps]⟩
  · exact (hr.root_iff_under (mem f hf).1 i).mp (mem f hf).2
  · rw [Traces.header?_eq_outline, Outline.header?, w.state]
    rfl

/-- A sampled transaction hands its client nothing before it is finished, and one event in all
when it is: the event that reports what its tree was when it was first finished. -/
theorem transaction_collects (earlier ops : List Operation) (c : ClientId)
    (ctx : TransactionContext) (rootId : SpanId) (now : Instant) :
    let i := (empty.performAll earlier).traces.transactions.length
    let started := (empty.performAll earlier).perform (.start (some c) true ctx rootId now)
    ((∀ blank, .finishTransaction i blank ∉ ops) → (started.performAll ops).events i = []) ∧
      ∀ front blank back, ops = front ++ .finishTransaction i blank :: back →
        (∀ blank, .finishTransaction i blank ∉ front) →
        ∃ e t, (started.performAll ops).events i = [⟨i, c, e⟩] ∧ t.traceId = ctx.traceId ∧
          t.spanId = rootId ∧ (started.performAll front).Reports i t e := by
  intro i started
  have hr : (empty.performAll earlier).Holds := holds_empty.performAll earlier
  have holds : started.Holds := hr.perform _
  have opened := open_start hr (handed_performAll earlier) c ctx rootId now
  refine ⟨fun unfinished => (opened.performAll holds ops unfinished).events, ?_⟩
  rintro front blank back rfl first
  have holds' := holds.performAll front
  have opened' := opened.performAll holds front first
  obtain ⟨e, closed, kind, spans, t, ht, htrace, hid⟩ := opened'.finish blank
  refine ⟨e, t, ?_, htrace, hid, holds'.reports (c := c) ?_ kind ht spans⟩
  · rw [performAll_append]
    exact (closed.performAll (holds'.perform (.finishTransaction i blank)) back).events
  · rw [htrace, hid]
    exact opened'

/-- A transaction with one span, both of which are finished twice. -/
theorem transaction_collects_child :
    let root : SpanId := HexId.ofNat 16 1
    let child := [.startChild (.transaction 0) "db.query" "" (HexId.ofNat 16 2) default,
      .finishSpan 0 default]
    let again := [.finishSpan 0 default, .finishTransaction 0 default]
    let started := empty.perform (.start (some 0) true
      ⟨"root", "http.server", HexId.ofNat 32 3, none, none⟩ root default)
    (∀ blank, Operation.finishTransaction 0 blank ∉ child) ∧
      ∃ e t, (started.performAll (child ++ .finishTransaction 0 default :: again)).events 0 =
          [⟨0, 0, e⟩] ∧ t.spanId = root ∧ (started.performAll child).Reports 0 t e ∧
        e.spans.map Span.parentSpanId = [some root] := by
  intro root child again started
  have first : ∀ blank, Operation.finishTransaction 0 blank ∉ child := by simp [child]
  obtain ⟨e, t, sent, -, hid, reports⟩ := (transaction_collects [] _ 0
    ⟨"root", "http.server", HexId.ofNat 32 3, none, none⟩ root default).2
    child default again rfl first
  refine ⟨first, e, t, sent, hid, reports, ?_⟩
  rw [reports.spans]
  rfl

end Telemetry.Recording
