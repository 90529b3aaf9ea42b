import Telemetry.Proofs.Trace.Recording

/-! Where spans come from. Whatever is done to the nodes of traces, every span hangs below the node
on which it was started, so that going up from parent to parent leads to its transaction; and a span
is ended once it was finished, whose first time is noted. -/

namespace Telemetry.Recording

/-- A node is there before a span: a transaction, or a span with a smaller number. -/
def before (k : Nat) : Node → Prop
  | .transaction _ => True
  | .span j => j < k

/-- A node is in the tree of a transaction: from parent to parent, each with the identifier that its
child says, one gets to the transaction without leaving the trace. -/
inductive Under (r : Recording) (i : Nat) : Node → Prop where
  | root : Under r i (.transaction i)
  | child {k : Nat} {n : Node} {h : TraceHeader} {s : RunningSpan} :
      r.parents[k]? = some n → r.traces.header? n = some h → r.traces.spans[k]? = some s →
      s.span.parentSpanId = some h.spanId → s.span.traceId = h.traceId → Under r i n →
      Under r i (.span k)

/-- A span hangs below a node: it was started there, in the node's tree and trace. -/
def Hangs (o : Outline) (k : Nat) (s : SpanOutline) (n : Node) : Prop :=
  before k n ∧ ∃ h, o.header? n = some h ∧ o.root? n = some s.transaction ∧
    s.parentSpanId = some h.spanId ∧ s.header.traceId = h.traceId

/-- The invariant of a recording: every span hangs below its parent, the ended spans are those that
were finished, each once, and what was noted then is still true of them. -/
structure Holds (r : Recording) : Prop where
  length : r.parents.length = r.traces.outline.spans.length
  lineage : ∀ k s n, r.traces.outline.spans[k]? = some s → r.parents[k]? = some n →
    Hangs r.traces.outline k s n
  ended : ∀ k s, r.traces.outline.spans[k]? = some s →
    (s.ended = true ↔ k ∈ r.finished.map Finished.number)
  distinct : (r.finished.map Finished.number).Nodup
  noted : ∀ f ∈ r.finished, ∃ s, r.traces.outline.spans[f.number]? = some s ∧
    f.span.traceId = s.header.traceId ∧ f.span.parentSpanId = s.parentSpanId

/-! ### Trees -/

theorem Holds.parent {r : Recording} (i : r.Holds) {k : Nat} {s : SpanOutline}
    (hs : r.traces.outline.spans[k]? = some s) : ∃ n, r.parents[k]? = some n := by
  have hk : k < r.traces.outline.spans.length := (List.getElem?_eq_some_iff.mp hs).1
  exact ⟨_, List.getElem?_eq_getElem (i.length ▸ hk)⟩

theorem outline_of_span {s : Traces} {k : Nat} {o : SpanOutline}
    (h : s.outline.spans[k]? = some o) : ∃ r, s.spans[k]? = some r ∧ r.outline = o := by
  simpa [List.getElem?_map, Option.map_eq_some_iff] using h

/-- A span whose transaction is `i` is under `i`, by going up from span to earlier span. -/
theorem Holds.under {r : Recording} (i : r.Holds) (k : Nat) {s : SpanOutline}
    (hs : r.traces.outline.spans[k]? = some s) : Under r s.transaction (.span k) := by
  induction k using Nat.strongRecOn generalizing s with
  | _ k ih =>
    obtain ⟨n, hn⟩ := i.parent hs
    obtain ⟨hb, h, hh, hroot, hp, ht⟩ := i.lineage k s n hs hn
    obtain ⟨o, ho, rfl⟩ := outline_of_span hs
    refine .child hn (by rw [Traces.header?_eq_outline, hh]) ho hp ht ?_
    cases n with
    | transaction j =>
      obtain rfl : j = o.outline.transaction := by simpa [Outline.root?] using hroot
      exact .root
    | span j =>
      simp only [Outline.root?, Option.map_eq_some_iff] at hroot
      obtain ⟨p, hpj, hpt⟩ := hroot
      exact hpt ▸ ih j hb hpj

theorem Holds.root_of_under {r : Recording} (i : r.Holds) {j : Nat} {n : Node}
    (u : Under r j n) : r.traces.outline.root? n = some j := by
  induction u with
  | root => rfl
  | @child k n h s hn _ hs _ _ _ ih =>
    have ho : r.traces.outline.spans[k]? = some s.outline := by simp [hs]
    obtain ⟨-, _, -, hroot, -⟩ := i.lineage k _ n ho hn
    rw [ih] at hroot
    simp [Outline.root?, hs, RunningSpan.outline] at hroot ⊢
    exact hroot.symm

/-- Every span is in the trace of its transaction. -/
theorem Holds.trace {r : Recording} (i : r.Holds) (k : Nat) {s : SpanOutline}
    (hs : r.traces.outline.spans[k]? = some s) :
    ∃ t, r.traces.outline.transactions[s.transaction]? = some t ∧
      t.header.traceId = s.header.traceId := by
  induction k using Nat.strongRecOn generalizing s with
  | _ k ih =>
    obtain ⟨n, hn⟩ := i.parent hs
    obtain ⟨hb, h, hh, hroot, -, ht⟩ := i.lineage k s n hs hn
    cases n with
    | transaction j =>
      obtain rfl : j = s.transaction := by simpa [Outline.root?] using hroot
      obtain ⟨t, htj, rfl⟩ := Option.map_eq_some_iff.mp hh
      exact ⟨t, htj, ht.symm⟩
    | span j =>
      obtain ⟨p, hpj, rfl⟩ := Option.map_eq_some_iff.mp hh
      obtain ⟨p', hpj', hpt⟩ := Option.map_eq_some_iff.mp hroot
      obtain rfl : p = p' := Option.some.inj (hpj.symm.trans hpj')
      obtain ⟨t, htj, htr⟩ := ih j hb hpj
      exact ⟨t, hpt ▸ htj, htr.trans ht.symm⟩

/-! ### Growing -/

/-- What was there is still there, with the same identity. -/
structure Extends (o o' : Outline) : Prop where
  transactions : ∀ (i : Nat) (t : TransactionOutline), o.transactions[i]? = some t →
    ∃ t' : TransactionOutline, o'.transactions[i]? = some t' ∧ t'.header = t.header
  spans : ∀ (k : Nat) (s : SpanOutline), o.spans[k]? = some s → ∃ s' : SpanOutline,
    o'.spans[k]? = some s' ∧ s'.transaction = s.transaction ∧ s'.header = s.header ∧
      s'.parentSpanId = s.parentSpanId

theorem Extends.header? {o o' : Outline} (e : Extends o o') {n : Node} {h : TraceHeader}
    (hn : o.header? n = some h) : o'.header? n = some h := by
  cases n with
  | transaction i =>
    obtain ⟨t, ht, rfl⟩ := Option.map_eq_some_iff.mp hn
    obtain ⟨t', ht', hh⟩ := e.transactions i t ht
    simp [Outline.header?, ht', hh]
  | span k =>
    obtain ⟨s, hs, rfl⟩ := Option.map_eq_some_iff.mp hn
    obtain ⟨s', hs', -, hh, -⟩ := e.spans k s hs
    simp [Outline.header?, hs', hh]

theorem Extends.root? {o o' : Outline} (e : Extends o o') {n : Node} {i : Nat}
    (hn : o.root? n = some i) : o'.root? n = some i := by
  cases n with
  | transaction _ => exact hn
  | span k =>
    obtain ⟨s, hs, rfl⟩ := Option.map_eq_some_iff.mp hn
    obtain ⟨s', hs', ht, -, -⟩ := e.spans k s hs
    simp [Outline.root?, hs', ht]

theorem Extends.length_le {o o' : Outline} (e : Extends o o') :
    o.transactions.length ≤ o'.transactions.length := by
  by_cases h : o.transactions.length = 0
  · omega
  · have last : o.transactions.length - 1 < o.transactions.length := by omega
    obtain ⟨t, ht, -⟩ := e.transactions _ _ (List.getElem?_eq_getElem last)
    have := (List.getElem?_eq_some_iff.mp ht).1
    omega

/-- A span that keeps its identity hangs where it did. -/
theorem Hangs.extend {o o' : Outline} (e : Extends o o') {k : Nat} {s s' : SpanOutline} {n : Node}
    (h : Hangs o k s n) (ht : s'.transaction = s.transaction) (hh : s'.header = s.header)
    (hp : s'.parentSpanId = s.parentSpanId) : Hangs o' k s' n := by
  obtain ⟨hb, header, hn, hr, hpn, htn⟩ := h
  exact ⟨hb, header, e.header? hn, by rw [e.root? hr, ht], by rw [hp, hpn], by rw [hh, htn]⟩

theorem extends_append (o : Outline) (ts : List TransactionOutline) (ss : List SpanOutline) :
    Extends o ⟨o.transactions ++ ts, o.spans ++ ss⟩ := by
  refine ⟨fun i t ht => ⟨t, ?_, rfl⟩, fun k s hs => ⟨s, ?_, rfl, rfl, rfl⟩⟩
  · rw [List.getElem?_append_left (List.getElem?_eq_some_iff.mp ht).1, ht]
  · rw [List.getElem?_append_left (List.getElem?_eq_some_iff.mp hs).1, hs]

/-- Changes of one transaction that keep its header, and the end of a span. -/
theorem extends_modify (o : Outline) (i k : Nat) {f : TransactionOutline → TransactionOutline}
    (hf : ∀ t, (f t).header = t.header) {g : SpanOutline → SpanOutline}
    (hg : g = id ∨ g = SpanOutline.finish) :
    Extends o ⟨o.transactions.modify i f, o.spans.modify k g⟩ := by
  refine ⟨fun j t ht => ?_, fun j s hs => ?_⟩
  · by_cases hij : i = j
    · subst hij
      exact ⟨f t, by simp [ht], hf t⟩
    · exact ⟨t, by simp [hij, ht], rfl⟩
  · by_cases hkj : k = j
    · subst hkj
      refine ⟨g s, by simp [hs], ?_⟩
      rcases hg with rfl | rfl <;> exact ⟨rfl, rfl, rfl⟩
    · exact ⟨s, by simp [hkj, hs], rfl, rfl, rfl⟩

theorem extends_refl (o : Outline) : Extends o o :=
  ⟨fun _ t ht => ⟨t, ht, rfl⟩, fun _ s hs => ⟨s, hs, rfl, rfl, rfl⟩⟩

theorem extends_edit {r : Recording} {f : Traces → Traces}
    (h : (f r.traces).outline = r.traces.outline) :
    Extends r.traces.outline (r.edit f).traces.outline := by
  rw [Recording.edit, h]
  exact extends_refl _

theorem extends_start (r : Recording) (t : Transaction) :
    Extends r.traces.outline (r.edit fun s => (s.addTransaction t).2).traces.outline := by
  have e := extends_append r.traces.outline [t.outline] []
  rwa [List.append_nil, ← Traces.outline_addTransaction r.traces t] at e

theorem extends_startChild {s s' : Traces} {n m : Node} {op description : String} {id : SpanId}
    {now : Instant} (h : s.startChild n op description id now = some (m, s')) :
    Extends s.outline s'.outline := by
  obtain ⟨header, root, -, -, ho⟩ := Traces.outline_startChild h
  have e := extends_append s.outline [] [⟨root, ⟨header.traceId, id,
    some (header.sampled == some true)⟩, some header.spanId, false⟩]
  rwa [List.append_nil, ← ho] at e

theorem extends_finishTransaction (r : Recording) (j : Nat) (blank : Event) :
    Extends r.traces.outline (r.finishTransaction j blank).traces.outline := by
  have e := extends_modify (f := TransactionOutline.close) r.traces.outline j 0 (fun _ => rfl)
    (.inl rfl)
  rwa [List.modify_id, ← Traces.outline_finishTransaction r.traces j blank] at e

/-- What finishing a span does to a recording: nothing if it is not there or was finished before,
and else it ends the span, notes it, and records it on its transaction. -/
theorem finishSpan_cases {r : Recording} (i : r.Holds) (k : Nat) (now : Instant) :
    r.finishSpan k now = r ∨ ∃ s, r.traces.spans[k]? = some s ∧
      k ∉ r.finished.map Finished.number ∧
      (r.finishSpan k now).finished =
        r.finished ++ [⟨k, { s.span with timestamp := some now }⟩] ∧
      (r.finishSpan k now).traces.outline =
        ⟨r.traces.outline.transactions.modify s.transaction
            (TransactionOutline.record { s.span with timestamp := some now }),
          r.traces.outline.spans.modify k SpanOutline.finish⟩ := by
  cases hs : r.traces.spans[k]? with
  | none =>
    left
    simp [Recording.finishSpan, Traces.finishSpan, hs]
  | some s =>
    have ended := i.ended k s.outline (by simp [hs])
    cases he : s.span.timestamp.isSome with
    | true =>
      left
      have hw : r.wasFinished k = true := by
        rw [wasFinished, List.contains_iff_mem]
        exact ended.mp he
      simp [Recording.finishSpan, Traces.outline_finishSpan_ended hs he, hs, hw]
    | false =>
      right
      have hn : k ∉ r.finished.map Finished.number := fun hm => by
        rw [show s.outline.ended = s.span.timestamp.isSome from rfl, he] at ended
        exact absurd (ended.mpr hm) (by simp)
      have hw : r.wasFinished k = false := by
        rw [wasFinished, ← Bool.not_eq_true, List.contains_iff_mem]
        exact hn
      exact ⟨s, rfl, hn, by simp [Recording.finishSpan, hs, hw],
        Traces.outline_finishSpan hs he now⟩

theorem extends_finishSpan (r : Recording) (k : Nat) (now : Instant) :
    Extends r.traces.outline (r.finishSpan k now).traces.outline := by
  show Extends r.traces.outline (r.traces.finishSpan k now).outline
  cases hs : r.traces.spans[k]? with
  | none =>
    rw [Traces.finishSpan, hs]
    exact extends_refl _
  | some s =>
    cases he : s.span.timestamp.isSome with
    | true =>
      rw [Traces.outline_finishSpan_ended hs he]
      exact extends_refl _
    | false =>
      rw [Traces.outline_finishSpan hs he]
      exact extends_modify (f := TransactionOutline.record _) _ _ _ (fun _ => rfl) (.inr rfl)

/-- Every operation leaves what was there. -/
theorem extends_perform (r : Recording) (op : Operation) :
    Extends r.traces.outline (r.perform op).traces.outline := by
  cases op with
  | start client sampled c id now => exact extends_start r _
  | startChild n op description id now =>
    rw [Recording.perform, Recording.startChild]
    split
    · next m traces hs => exact extends_startChild hs
    · exact extends_refl _
  | setData n key value => exact extends_edit (Traces.outline_setData _ n key value)
  | setTag n key value => exact extends_edit (Traces.outline_setTag _ n key value)
  | setStatus n status => exact extends_edit (Traces.outline_setStatus _ n status)
  | setName j name => exact extends_edit (Traces.outline_setName _ j name)
  | setRequest j request => exact extends_edit (Traces.outline_setRequest _ j request)
  | finishSpan k now => exact extends_finishSpan r k now
  | finishTransaction j blank => exact extends_finishTransaction r j blank

theorem Extends.trans {o₁ o₂ o₃ : Outline} (e : Extends o₁ o₂) (e' : Extends o₂ o₃) :
    Extends o₁ o₃ := by
  refine ⟨fun i t ht => ?_, fun k s hs => ?_⟩
  · obtain ⟨t', ht', hh⟩ := e.transactions i t ht
    obtain ⟨t'', ht'', hh'⟩ := e'.transactions i t' ht'
    exact ⟨t'', ht'', hh'.trans hh⟩
  · obtain ⟨s', hs', ht, hh, hp⟩ := e.spans k s hs
    obtain ⟨s'', hs'', ht', hh', hp'⟩ := e'.spans k s' hs'
    exact ⟨s'', hs'', ht'.trans ht, hh'.trans hh, hp'.trans hp⟩

theorem extends_performAll (r : Recording) (ops : List Operation) :
    Extends r.traces.outline (r.performAll ops).traces.outline := by
  induction ops generalizing r with
  | nil => exact extends_refl _
  | cons op ops ih => exact (extends_perform r op).trans (ih _)

/-- A node goes by the same header for ever. -/
theorem header?_performAll {r : Recording} {n : Node} {h : TraceHeader}
    (hn : r.traces.header? n = some h) (ops : List Operation) :
    (r.performAll ops).traces.header? n = some h := by
  rw [Traces.header?_eq_outline] at hn ⊢
  exact (extends_performAll r ops).header? hn

/-! ### Operations -/

/-- Changes that leave the outline alone, and nothing was started or finished. -/
theorem Holds.edit {r : Recording} (i : r.Holds) {f : Traces → Traces}
    (h : (f r.traces).outline = r.traces.outline) : (r.edit f).Holds := by
  refine ⟨?_, ?_, ?_, i.distinct, ?_⟩ <;> simp only [Recording.edit, h]
  · exact i.length
  · exact i.lineage
  · exact i.ended
  · exact i.noted

theorem Holds.start {r : Recording} (i : r.Holds) (t : Transaction) :
    (r.edit fun s => (s.addTransaction t).2).Holds := by
  have spans : (r.edit fun s => (s.addTransaction t).2).traces.outline.spans =
      r.traces.outline.spans := by rw [Recording.edit, Traces.outline_addTransaction]
  refine ⟨?_, ?_, ?_, i.distinct, ?_⟩ <;> simp only [spans]
  · exact i.length
  · exact fun k s n hs hn => (i.lineage k s n hs hn).extend (extends_start r t) rfl rfl rfl
  · exact i.ended
  · exact i.noted

/-- What stands in a list with one more element in the end. -/
theorem getElem?_snoc {α : Type} {xs : List α} {x y : α} {k : Nat}
    (h : (xs ++ [x])[k]? = some y) : (k < xs.length ∧ xs[k]? = some y) ∨
      (k = xs.length ∧ y = x) := by
  by_cases hk : k < xs.length
  · exact .inl ⟨hk, by rwa [List.getElem?_append_left hk] at h⟩
  · have hl := (List.getElem?_eq_some_iff.mp h).1
    rw [List.length_append, List.length_singleton] at hl
    obtain rfl : k = xs.length := by omega
    rw [List.getElem?_concat_length] at h
    exact .inr ⟨rfl, (Option.some.inj h).symm⟩

/-- The new span hangs below the node on which it was started. -/
theorem Holds.startChild {r : Recording} (i : r.Holds) (n : Node) (op description : String)
    (id : SpanId) (now : Instant) : (r.startChild n op description id now).Holds := by
  unfold Recording.startChild
  split
  · next m traces hs =>
    have e := extends_startChild hs
    obtain ⟨h, root, hh, hr, ho⟩ := Traces.outline_startChild hs
    generalize hnew : (⟨root, ⟨h.traceId, id, some (h.sampled == some true)⟩, some h.spanId,
      false⟩ : SpanOutline) = new at ho
    have spans : traces.outline.spans = r.traces.outline.spans ++ [new] := by rw [ho]
    have notNoted : r.traces.outline.spans.length ∉ r.finished.map Finished.number := by
      intro hm
      obtain ⟨f, hf, hfn⟩ := List.mem_map.mp hm
      obtain ⟨s, hs, -⟩ := i.noted f hf
      have := (List.getElem?_eq_some_iff.mp hs).1
      omega
    refine ⟨?_, ?_, ?_, i.distinct, ?_⟩
    · simp only [spans, List.length_append, List.length_singleton, i.length]
    · intro k s m hs hm
      rw [spans] at hs
      rcases getElem?_snoc hs with ⟨hk, hs⟩ | ⟨hk, rfl⟩
      · rcases getElem?_snoc hm with ⟨-, hm⟩ | ⟨hk', -⟩
        · exact (i.lineage k s m hs hm).extend e rfl rfl rfl
        · have := i.length
          omega
      · rcases getElem?_snoc hm with ⟨hk', -⟩ | ⟨-, rfl⟩
        · have := i.length
          omega
        · subst hnew
          refine ⟨?_, h, e.header? hh, e.root? hr, rfl, rfl⟩
          cases m with
          | transaction _ => trivial
          | span j =>
            obtain ⟨p, hp, -⟩ := Option.map_eq_some_iff.mp hr
            exact hk ▸ (List.getElem?_eq_some_iff.mp hp).1
    · intro k s hs
      rw [spans] at hs
      rcases getElem?_snoc hs with ⟨-, hs⟩ | ⟨rfl, rfl⟩
      · exact i.ended k s hs
      · subst hnew
        simpa using notNoted
    · intro f hf
      obtain ⟨s, hs, ht, hp⟩ := i.noted f hf
      refine ⟨s, ?_, ht, hp⟩
      rw [spans, List.getElem?_append_left (List.getElem?_eq_some_iff.mp hs).1, hs]
  · exact i

theorem Holds.finishTransaction {r : Recording} (i : r.Holds) (j : Nat) (blank : Event) :
    (r.finishTransaction j blank).Holds := by
  have e := extends_finishTransaction r j blank
  have spans : (r.finishTransaction j blank).traces.outline.spans = r.traces.outline.spans := by
    rw [Recording.finishTransaction, Traces.outline_finishTransaction]
  refine ⟨?_, ?_, ?_, i.distinct, ?_⟩ <;> simp only [spans]
  · exact i.length
  · exact fun k s n hs hn => (i.lineage k s n hs hn).extend e rfl rfl rfl
  · exact i.ended
  · exact i.noted

theorem Holds.finishSpan {r : Recording} (i : r.Holds) (k : Nat) (now : Instant) :
    (r.finishSpan k now).Holds := by
  rcases finishSpan_cases i k now with h | ⟨s, hs, hn, hf, ho⟩
  · rw [h]
    exact i
  · have e := extends_finishSpan r k now
    have hk : r.traces.outline.spans[k]? = some s.outline := by simp [hs]
    have spans : ∀ j s', (r.finishSpan k now).traces.outline.spans[j]? = some s' →
        ∃ s, r.traces.outline.spans[j]? = some s ∧
          s' = if k = j then s.finish else s := by
      intro j s' hs'
      rw [ho, List.getElem?_modify] at hs'
      obtain ⟨s, hs, rfl⟩ := Option.map_eq_some_iff.mp hs'
      exact ⟨s, hs, by split <;> rfl⟩
    refine ⟨?_, ?_, ?_, ?_, ?_⟩
    · show r.parents.length = _
      rw [ho, List.length_modify]
      exact i.length
    · intro j s' n hs' hm
      obtain ⟨s, hs, rfl⟩ := spans j s' hs'
      have hangs := i.lineage j s n hs hm
      split <;> exact hangs.extend e rfl rfl rfl
    · intro j s' hs'
      obtain ⟨s, hs, rfl⟩ := spans j s' hs'
      rw [hf, List.map_append, List.mem_append, List.map_singleton, List.mem_singleton]
      by_cases hkj : k = j
      · simp [hkj, SpanOutline.finish]
      · simpa [hkj, Ne.symm hkj] using i.ended j s hs
    · rw [hf, List.map_append, List.map_singleton]
      refine List.nodup_append.mpr ⟨i.distinct, by simp, fun j hj j' hj' h => ?_⟩
      rw [List.mem_singleton.mp hj'] at h
      subst h
      exact hn hj
    · intro f hm
      rw [hf] at hm
      rcases List.mem_append.mp hm with hm | hm
      · obtain ⟨s, hs, ht, hp⟩ := i.noted f hm
        obtain ⟨s', hs', -, hh', hp'⟩ := e.spans _ s hs
        exact ⟨s', hs', by rw [hh', ht], by rw [hp', hp]⟩
      · obtain rfl := List.mem_singleton.mp hm
        obtain ⟨s', hs', -, hh', hp'⟩ := e.spans _ _ hk
        exact ⟨s', hs', by rw [hh']; rfl, by rw [hp']; rfl⟩

/-- Every operation keeps the invariant. -/
theorem Holds.perform {r : Recording} (i : r.Holds) (op : Operation) : (r.perform op).Holds := by
  cases op with
  | start client sampled c id now => exact i.start _
  | startChild n op description id now => exact i.startChild n op description id now
  | setData n key value => exact i.edit (Traces.outline_setData _ n key value)
  | setTag n key value => exact i.edit (Traces.outline_setTag _ n key value)
  | setStatus n status => exact i.edit (Traces.outline_setStatus _ n status)
  | setName j name => exact i.edit (Traces.outline_setName _ j name)
  | setRequest j request => exact i.edit (Traces.outline_setRequest _ j request)
  | finishSpan k now => exact i.finishSpan k now
  | finishTransaction j blank => exact i.finishTransaction j blank

theorem Holds.performAll {r : Recording} (i : r.Holds) (ops : List Operation) :
    (r.performAll ops).Holds := by
  induction ops generalizing r with
  | nil => exact i
  | cons op ops ih => exact ih (i.perform op)

theorem holds_empty : empty.Holds :=
  ⟨rfl, fun _ _ _ hs => by simp [empty, Traces.empty, Traces.outline] at hs,
    fun _ _ hs => by simp [empty, Traces.empty, Traces.outline] at hs, List.nodup_nil,
    fun _ hf => by cases hf⟩

end Telemetry.Recording
