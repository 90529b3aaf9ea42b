import Telemetry.Proofs.Client.Filling
import Telemetry.Proofs.Trace.Propagation

/-! What becomes of an event in a scope without processors: whatever the event does not say itself
is filled in, some of it is overruled, and in the end the event has a trace. -/

namespace Telemetry

/-- The name of a node, if that is a transaction. -/
def Traces.name? (traces : Traces) : Node → Option String
  | .transaction i => traces.transactions[i]?.bind Transaction.name
  | .span _ => none

namespace Scope

section Merging

variable (s : Scope) (traces : Traces)

/-- The trace that is said to be that of an event. A transaction knows best, otherwise the scope
does. -/
def saidTrace? (e : Event) : Option Context :=
  (if e.kind = .transaction then e.contexts.get? "trace" else none).or
    ((s.contexts.get? "trace").or (e.contexts.get? "trace"))

/-- The trace of the moment: that of the node under way, or the scope's own. -/
def currentTrace : Context :=
  .trace ((s.span.bind traces.context?).getD s.propagationContext)

/-- An event and what a scope makes of it. -/
structure Merges (e e' : Event) : Prop where
  fingerprint : e'.fingerprint =
    if e.fingerprint.isEmpty then s.fingerprint.getD [] else e.fingerprint
  user : e'.user = e.user.or s.user
  request : e'.request = e.request.or s.request
  level : e'.level = s.level.getD e.level
  tags : ∀ k, e'.tags.get? k = (s.tags.get? k).or (e.tags.get? k)
  extra : ∀ k, e'.extra.get? k = (s.extra.get? k).or (e.extra.get? k)
  contexts : ∀ k, k ≠ "trace" → e'.contexts.get? k = (s.contexts.get? k).or (e.contexts.get? k)
  trace : e'.contexts.get? "trace" = some ((s.saidTrace? e).getD (s.currentTrace traces))
  transaction : e'.transaction = e.transaction.or (s.transaction.or
    (if s.saidTrace? e = none then s.span.bind traces.name? else none))
  breadcrumbs : e'.breadcrumbs =
    if e.kind = .default then e.breadcrumbs ++ s.breadcrumbs else e.breadcrumbs
  others : e' = { e with
    fingerprint := e'.fingerprint, user := e'.user, request := e'.request, level := e'.level
    tags := e'.tags, extra := e'.extra, contexts := e'.contexts, transaction := e'.transaction
    breadcrumbs := e'.breadcrumbs }

end Merging

variable {s : Scope} {traces : Traces} {e e₁ e₂ : Event}

/-- What a scope makes of an event is told in full. -/
theorem Merges.unique (h₁ : s.Merges traces e e₁) (h₂ : s.Merges traces e e₂) : e₁ = e₂ := by
  have tags : e₁.tags = e₂.tags :=
    StringMap.eq_of_get? fun k => (h₁.tags k).trans (h₂.tags k).symm
  have extra : e₁.extra = e₂.extra :=
    StringMap.eq_of_get? fun k => (h₁.extra k).trans (h₂.extra k).symm
  have contexts : e₁.contexts = e₂.contexts := by
    refine StringMap.eq_of_get? fun k => ?_
    by_cases hk : k = "trace"
    · rw [hk, h₁.trace, h₂.trace]
    · rw [h₁.contexts k hk, h₂.contexts k hk]
  rw [h₁.others, h₂.others, h₁.fingerprint, h₂.fingerprint, h₁.user, h₂.user, h₁.request,
    h₂.request, h₁.level, h₂.level, tags, extra, contexts, h₁.transaction, h₂.transaction,
    h₁.breadcrumbs, h₂.breadcrumbs]

theorem get?_fillFields (e : Event) (k : String) :
    (s.fillFields e).contexts.get? k =
      if k = "trace" then s.saidTrace? e else (s.contexts.get? k).or (e.contexts.get? k) := by
  let keep (k : String) : Bool :=
    !(e.kind = .transaction && k = "trace" && e.contexts.contains "trace")
  have merged : (s.fillFields e).contexts.get? k =
      (if keep k then s.contexts.get? k else none).or (e.contexts.get? k) :=
    (StringMap.get?_insertAll _ (SortedKeys.nodup (s.contexts.sorted.filter _)) k).trans
      (congrArg (Option.or · (e.contexts.get? k)) (lookup_filter keep k _))
  rw [merged]
  by_cases hk : k = "trace"
  · subst hk
    rw [if_pos rfl, saidTrace?]
    by_cases transaction : e.kind = .transaction
    · cases own : e.contexts.get? "trace" <;> simp [keep, transaction, StringMap.contains, own]
    · simp [keep, transaction]
  · simp [keep, hk]

theorem fillTrace_eq (started : ∀ n, s.span = some n → ∃ h, traces.header? n = some h)
    (e : Event) :
    s.fillTrace traces e =
      { e with
        transaction := e.transaction.or
          (if e.contexts.get? "trace" = none then s.span.bind traces.name? else none)
        contexts := e.contexts.insertNew "trace" (s.currentTrace traces) } := by
  unfold fillTrace currentTrace StringMap.insertNew
  cases own : e.contexts.get? "trace" with
  | some c =>
    have there : e.contexts.contains "trace" = true := by rw [StringMap.contains, own]; rfl
    cases s.span <;> simp [applyPropagation, Traces.applyToEvent, there]
  | none =>
    have free : e.contexts.contains "trace" = false := StringMap.contains_eq_false.mpr own
    cases under : s.span with
    | none => simp [applyPropagation, free]
    | some n =>
      obtain ⟨_, header⟩ := started n under
      obtain ⟨c, context, -⟩ := Traces.context?_of_header? header
      cases n <;> simp [Traces.applyToEvent, free, context, Traces.name?]

theorem fillBreadcrumbs_eq (e : Event) :
    s.fillBreadcrumbs e = { e with
      breadcrumbs :=
        if e.kind = .default then e.breadcrumbs ++ s.breadcrumbs else e.breadcrumbs } := by
  unfold fillBreadcrumbs
  split <;> rfl

theorem merges_fill (started : ∀ n, s.span = some n → ∃ h, traces.header? n = some h)
    (e : Event) : s.Merges traces e (s.fill traces e) := by
  rw [fill_eq, fillTrace_eq started, fillBreadcrumbs_eq, get?_fillFields, if_pos rfl]
  constructor
  case fingerprint => rfl
  case user => rfl
  case request => rfl
  case level => rfl
  case tags => exact StringMap.get?_union e.tags s.tags
  case extra => exact StringMap.get?_union e.extra s.extra
  case contexts =>
    intro k hk
    rw [StringMap.get?_insertNew, get?_fillFields, if_neg hk, if_neg hk, Option.or_none]
  case trace =>
    rw [StringMap.get?_insertNew, get?_fillFields, if_pos rfl, if_pos rfl, Option.or_some]
  case transaction => exact Option.or_assoc ..
  case breadcrumbs => rfl
  case others => rfl

/-- A scope without processors drops no event, and what it makes of one is what it merges into it.
-/
theorem applyToEvent_merges (plain : s.processors = [])
    (started : ∀ n, s.span = some n → ∃ h, traces.header? n = some h) (e : Event) :
    ∃ e', s.applyToEvent traces e = .ok e' ∧ ∀ x, s.Merges traces e x ↔ x = e' := by
  refine ⟨s.fill traces e, ?_, fun x => ⟨fun h => h.unique (merges_fill started e), ?_⟩⟩
  · rw [applyToEvent, stages, plain]
    rfl
  · rintro rfl
    exact merges_fill started e

/-- An error in a transaction, and one that is a part of another trace. -/
theorem applyToEvent_merges_transaction :
    let trace : TraceId := .ofNat 32 1
    let r := Recording.empty.performAll
      [.start none false ⟨"request", "http", trace, none, none⟩ (.ofNat 16 2) .epoch]
    let s : Scope :=
      { Scope.empty ⟨.zero 32, .zero 16, none⟩ with
        level := some .warning, tags := .ofList [("host", "a"), ("zone", "b")]
        span := some (.transaction 0) }
    let e : Event := { Event.empty default .epoch with tags := .ofList [("zone", "c")] }
    let other : Event := { e with contexts := .ofList [("trace", .trace s.propagationContext)] }
    s.processors = [] ∧ (∀ n, s.span = some n → ∃ h, r.traces.header? n = some h) ∧
      (∃ e', s.applyToEvent r.traces e = .ok e' ∧ e'.level = .warning ∧
        e'.tags.get? "zone" = some "b" ∧ e'.transaction = some "request" ∧
        ∃ c, e'.contexts.get? "trace" = some (.trace c) ∧ c.traceId = trace) ∧
      ∃ e', s.applyToEvent r.traces other = .ok e' ∧ e'.transaction = none ∧
        ∃ c, e'.contexts.get? "trace" = some (.trace c) ∧ c.traceId = .zero 32 := by
  intro trace r s e other
  have started : ∀ n, s.span = some n → ∃ h, r.traces.header? n = some h := by
    rintro n ⟨⟩
    exact ⟨_, rfl⟩
  obtain ⟨e₁, ok₁, merges₁⟩ := applyToEvent_merges (s := s) rfl started e
  obtain ⟨e₂, ok₂, merges₂⟩ := applyToEvent_merges (s := s) rfl started other
  have m₁ := (merges₁ e₁).mpr rfl
  have m₂ := (merges₂ e₂).mpr rfl
  exact ⟨rfl, started, ⟨e₁, ok₁, m₁.level, m₁.tags "zone", m₁.transaction, _, m₁.trace, rfl⟩,
    e₂, ok₂, m₂.transaction, _, m₂.trace, rfl⟩

end Scope

end Telemetry
