import Telemetry.Proofs.Trace.Header
import Telemetry.Proofs.Trace.Recording

/-! The two ways to continue a trace. Whoever has a node takes the trace from it; whoever gets a
request takes it from the headers, among which the node's may stand anywhere. Both come to the same
context. -/

namespace Telemetry.Traces

open TransactionContext

/-- A trace continues from the headers that a node hands on, with any others around them, as it
continues from the node itself: with the node for a parent and its decision, nothing being drawn. -/
theorem ofHeaders_eq_continueFrom {traces : Traces} {n : Node} {h : TraceHeader}
    (node : traces.header? n = some h) (name operation : String)
    {before after : List (String × String)} (others : Others (before ++ after)) (s : Fresh) :
    ofHeaders name operation (before ++ h.headers ++ after) s =
        traces.continueFrom name operation n s ∧
      traces.continueFrom name operation n s =
        ({ name, operation, traceId := h.traceId, parentSpanId := some h.spanId,
           sampled := h.sampled }, s) := by
  have front : Others before := fun e he => others e (List.mem_append_left _ he)
  have back : Others after := fun e he => others e (List.mem_append_right _ he)
  have found : traceHeader? (before ++ h.headers ++ after) = some h := by
    rw [traceHeader?_append_others _ back, traceHeader?_others_append front, traceHeader?_headers]
  have handle : traces.continueFrom name operation n s = (continuing name operation h, s) := by
    rw [continueFrom, node]
  rw [handle, ofHeaders, found]
  exact ⟨rfl, rfl⟩

/-- A span below a span, whose header stands between others, some of them named much like it. -/
theorem ofHeaders_eq_continueFrom_grandchild :
    let trace : TraceId := .ofNat 32 1
    let r := Recording.empty.performAll
      [.start none false ⟨"request", "http", trace, none, none⟩ (.ofNat 16 2) .epoch,
        .startChild (.transaction 0) "db" "query" (.ofNat 16 3) .epoch,
        .startChild (.span 0) "db" "fetch" (.ofNat 16 4) .epoch]
    let h : TraceHeader := ⟨trace, .ofNat 16 4, some false⟩
    let before := [("Sentry-Trace-Id", "0"), ("BAGGAGE", "a=1")]
    let after := [("sentry_trace", h.text)]
    r.traces.header? (.span 1) = some h ∧ Others (before ++ after) ∧
      ∀ s, ofHeaders "job" "queue" (before ++ h.headers ++ after) s =
          r.traces.continueFrom "job" "queue" (.span 1) s ∧
        r.traces.continueFrom "job" "queue" (.span 1) s =
          (⟨"job", "queue", trace, some (.ofNat 16 4), some false⟩, s) := by
  intro trace r h before after
  have node : r.traces.header? (.span 1) = some h := rfl
  have others : Others (before ++ after) := by
    unfold Others
    simp only [before, after, List.cons_append, List.nil_append, List.forall_mem_cons]
    simp only [ne_eq, ← String.toList_inj, lowerAscii, String.toList_map]
    exact ⟨by decide, by decide, by decide, List.forall_mem_nil _⟩
  exact ⟨node, others, fun s => ofHeaders_eq_continueFrom node "job" "queue" others s⟩

end Telemetry.Traces
