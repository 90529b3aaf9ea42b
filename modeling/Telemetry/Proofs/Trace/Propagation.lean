import Telemetry.Proofs.Client.Filling
import Telemetry.Proofs.Json.Distinct
import Telemetry.Proofs.Trace.Header
import Telemetry.Proofs.Trace.Lineage
import Telemetry.Scope

/-! Whatever is captured under a scope names one trace: the trace of the node under way, or else the
scope's own. An event and the header that hands the trace on name the same span as well, and metrics
and logs name it if a node is under way. -/

namespace Telemetry

theorem Traces.context?_of_header? {traces : Traces} {n : Node} {h : TraceHeader}
    (hn : traces.header? n = some h) :
    ∃ c, traces.context? n = some c ∧ c.traceId = h.traceId ∧ c.spanId = h.spanId := by
  cases n with
  | transaction i =>
    obtain ⟨t, ht, rfl⟩ := Option.map_eq_some_iff.mp hn
    exact ⟨t.context, by rw [context?, ht]; rfl, rfl, rfl⟩
  | span k =>
    obtain ⟨r, hr, rfl⟩ := Option.map_eq_some_iff.mp hn
    exact ⟨_, by rw [context?, hr]; rfl, rfl, rfl⟩

namespace Scope

/-- Whatever is captured under a scope names the trace and the span of a header. -/
structure Names (s : Scope) (traces : Traces) (h : TraceHeader) : Prop where
  event : ∀ e : Event, e.contexts.contains "trace" = false →
    ∃ c, (s.fill traces e).traceContext? = some c ∧ c.traceId = h.traceId ∧ c.spanId = h.spanId
  header : ∃ value, s.propagationHeaders traces = [(TraceHeader.name, value)] ∧
    TraceHeader.parse? value = some h
  log : ∀ withUser l, (s.applyToLog traces withUser l).traceId = some (l.traceId.getD h.traceId)
  logParent : ∀ withUser l,
    (s.applyToLog traces withUser l).attributes.get? "sentry.trace.parent_span_id" =
      (l.attributes.get? "sentry.trace.parent_span_id").or
        (s.span.map fun _ => textAttribute h.spanId.text)
  metric : ∀ m, (s.applyToMetric traces m).traceId = h.traceId
  metricSpan : ∀ m,
    (s.applyToMetric traces m).spanId = m.spanId.or (s.span.map fun _ => h.spanId)

variable {s : Scope} {traces : Traces} {h : TraceHeader}

/-! ### Events -/

/-- A scope without a trace context adds none to those of an event. -/
theorem get?_mergeContexts (kind : EventKind) (own : StringMap Context)
    {scope : StringMap Context} (hs : scope.contains "trace" = false) :
    (mergeContexts kind own scope).get? "trace" = own.get? "trace" := by
  rw [StringMap.contains_eq_false, StringMap.get?, List.lookup_eq_none_iff] at hs
  rw [mergeContexts, StringMap.get?_insertAll own (SortedKeys.nodup (scope.sorted.filter _))]
  rw [List.lookup_eq_none_iff.mpr fun e he => hs e (List.mem_of_mem_filter he), Option.none_or]

theorem contexts_fillBreadcrumbs (e : Event) : (s.fillBreadcrumbs e).contexts = e.contexts := by
  unfold fillBreadcrumbs
  split <;> rfl

theorem contexts_fillTrace {e : Event} (own : e.contexts.contains "trace" = false)
    (started : ∀ n, s.span = some n → ∃ h, traces.header? n = some h) :
    ∃ c, (s.fillTrace traces e).contexts.get? "trace" = some (.trace c) ∧
      c.traceId = (s.traceHeader traces).traceId ∧ c.spanId = (s.traceHeader traces).spanId := by
  cases hspan : s.span with
  | none =>
    refine ⟨s.propagationContext, ?_, ?_⟩
    · simp [fillTrace, hspan, applyPropagation, own, StringMap.get?_insert]
    · simp [traceHeader, hspan, propagationContext]
  | some n =>
    obtain ⟨h, hn⟩ := started n hspan
    obtain ⟨c, hc, ht, hs⟩ := Traces.context?_of_header? hn
    refine ⟨c, ?_, ?_⟩
    · simp [fillTrace, hspan, Traces.applyToEvent, own, hc, StringMap.get?_insert]
    · simp [traceHeader, hspan, hn, ht, hs]

/-! ### Logs -/

/-- Attributes that are set for want of others leave those of another name alone. -/
theorem get?_addAttributes {key : String} {defaults : List (String × Option String)}
    (other : key ∉ defaults.map Prod.fst) (attributes : StringMap Attribute) :
    (addAttributes attributes defaults).get? key = attributes.get? key := by
  induction defaults generalizing attributes with
  | nil => rfl
  | cons d defaults ih =>
    obtain ⟨name, value⟩ := d
    rw [List.map_cons, List.mem_cons, not_or] at other
    refine (ih other.2 _).trans ?_
    cases value with
    | none => rfl
    | some v => simp [StringMap.get?_insertNew, other.1]

theorem get?_addAttributes_cons (key : String) (value : Option String)
    {defaults : List (String × Option String)} (other : key ∉ defaults.map Prod.fst)
    (attributes : StringMap Attribute) :
    (addAttributes attributes ((key, value) :: defaults)).get? key =
      (attributes.get? key).or (value.map textAttribute) := by
  refine (get?_addAttributes other _).trans ?_
  cases value with
  | none => simp
  | some v => simp [StringMap.get?_insertNew]

/-! ### Everything -/

/-- At any one time, everything names the header of that time. -/
theorem names_traceHeader (started : ∀ n, s.span = some n → ∃ h, traces.header? n = some h)
    (own : s.contexts.contains "trace" = false) : s.Names traces (s.traceHeader traces) := by
  have under : s.span.bind traces.header? = s.span.map fun _ => s.traceHeader traces := by
    cases hspan : s.span with
    | none => rfl
    | some n =>
      obtain ⟨h, hn⟩ := started n hspan
      simp [traceHeader, hspan, hn]
  constructor
  case event =>
    intro e he
    have free : (s.fillFields e).contexts.contains "trace" = false := by
      rw [StringMap.contains_eq_false] at he ⊢
      exact (get?_mergeContexts e.kind e.contexts own).trans he
    obtain ⟨c, hc, ht, hs⟩ := contexts_fillTrace free started
    refine ⟨c, ?_, ht, hs⟩
    rw [fill_eq, Event.traceContext?, contexts_fillBreadcrumbs, hc]
  case header => exact ⟨_, rfl, TraceHeader.parse?_text _⟩
  case log => exact fun withUser l => rfl
  case logParent =>
    intro withUser l
    have other : "sentry.trace.parent_span_id" ∉
        (if withUser then (s.user.map userAttributes).getD [] else []).map Prod.fst := by
      cases withUser <;> cases s.user <;> simp [userAttributes]
    rw [applyToLog, get?_addAttributes_cons _ _ other, under]
    cases s.span <;> rfl
  case metric => exact fun m => rfl
  case metricSpan =>
    intro m
    rw [applyToMetric, under]
    cases s.span <;> rfl

/-- Everything captured under a scope names one trace, whatever is done meanwhile to the node under
way or any other. -/
theorem names_one_trace (s : Scope) (r : Recording)
    (started : ∀ n, s.span = some n → ∃ h, r.traces.header? n = some h)
    (own : s.contexts.contains "trace" = false) (ops : List Operation) :
    s.Names (r.performAll ops).traces (s.traceHeader r.traces) := by
  have still : ∀ n, s.span = some n →
      (r.performAll ops).traces.header? n = r.traces.header? n := by
    intro n hspan
    obtain ⟨h, hn⟩ := started n hspan
    rw [hn, Recording.header?_performAll hn ops]
  have same : s.traceHeader (r.performAll ops).traces = s.traceHeader r.traces := by
    cases hspan : s.span with
    | none => simp [traceHeader, hspan]
    | some n => simp [traceHeader, hspan, still n hspan]
  rw [← same]
  refine names_traceHeader (fun n hspan => ?_) own
  rw [still n hspan]
  exact started n hspan

/-- A span that is finished and given another status between two captures. -/
theorem names_one_trace_span :
    let trace : TraceId := .ofNat 32 1
    let child : SpanId := .ofNat 16 3
    let r := Recording.empty.performAll
      [.start none false ⟨"request", "http", trace, none, none⟩ (.ofNat 16 2) .epoch,
        .startChild (.transaction 0) "db" "select" child .epoch]
    let s : Scope := { Scope.empty ⟨.zero 32, .zero 16, none⟩ with span := some (.span 0) }
    s.traceHeader r.traces = ⟨trace, child, some false⟩ ∧
      s.Names (r.performAll [.finishSpan 0 (.ofSeconds 1), .setStatus (.span 0) .ok]).traces
        ⟨trace, child, some false⟩ := by
  intro trace child r s
  have started : ∀ n, s.span = some n → ∃ h, r.traces.header? n = some h := by
    rintro n ⟨⟩
    exact ⟨⟨trace, child, some false⟩, rfl⟩
  exact ⟨rfl, names_one_trace s r started rfl _⟩

end Scope

end Telemetry
