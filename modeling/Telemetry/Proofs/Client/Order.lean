import Telemetry.Proofs.Client.Asking
import Telemetry.Proofs.Number.Order

/-! The order of an event's way. The callbacks are asked in the order of their registration, first
the processors, then the integrations, then the last callback for the kind that the event has by
then. Each is asked once, about what the one before it passed on, and nothing happens after one that
passes nothing on. What comes to the end of the way was ignored by no pattern and sampled. -/

namespace Telemetry.Client

variable {σ : Type}

/-! ### Integrations -/

theorem distinct_names (is : List Integration) : ((distinct is).map Integration.name).Nodup := by
  induction is with
  | nil => exact List.nodup_nil
  | cons i is ih =>
    rw [distinct, List.map_cons, List.nodup_cons]
    refine ⟨fun h => ?_, ih.sublist (List.filter_sublist.map _)⟩
    obtain ⟨j, hj, same⟩ := List.mem_map.mp h
    simp [same] at hj

/-- No two integrations of a client have the same name. -/
theorem create_names [PatternLanguage] {o : ClientOptions} {c : Client} {ds : List Diagnostic}
    (h : create o = .ok (c, ds)) : (c.integrations.map Integration.name).Nodup := by
  unfold create at h
  cases hp : o.compile with
  | error e =>
    rw [hp] at h
    cases h
  | ok patterns =>
    rw [hp] at h
    cases h
    exact distinct_names o.integrations

/-! ### Patterns and sampling -/

/-- Neither patterns nor sampling stop an event: no pattern for its kind finds anything in its
texts, it does not carry the decision not to be sampled, and the rate keeps something at all. -/
structure Passes (c : Client) (e : Event) : Prop where
  message : e.kind = .default → ∀ i ∈ c.patterns.errors, ∀ text, e.message = some text →
    i.isFoundIn text = false
  exceptionType : e.kind = .default → ∀ i ∈ c.patterns.errors, ∀ x ∈ e.exceptions,
    i.isFoundIn x.type = false
  exceptionValue : e.kind = .default → ∀ i ∈ c.patterns.errors, ∀ x ∈ e.exceptions,
    ∀ value, x.value = some value →
      i.isFoundIn value = false ∧
        i.isFoundIn (x.type ++ ": " ++ value) = false
  name : e.kind = .transaction → ∀ i ∈ c.patterns.transactions, ∀ text,
    e.transaction = some text → i.isFoundIn text = false
  sampled : e.kind = .transaction → e.traceContext?.bind TraceContext.sampled ≠ some false
  rate : e.kind = .default → ¬ c.options.sampleRate ≤ 0

theorem not_matches_of_candidate {p : IgnorePatterns} {e : Event} (h : ignoredBy? p e = none)
    (kind : e.kind = .default) {i : IgnorePattern} (hi : i ∈ p.errors) {text : String}
    (ht : text ∈ candidates e) : i.isFoundIn text = false := by
  simp only [ignoredBy?, kind, Option.map_eq_none_iff, List.find?_eq_none] at h
  simpa using fun found => h i hi (List.any_eq_true.mpr ⟨text, ht, found⟩)

theorem not_matches_of_name {p : IgnorePatterns} {e : Event} (h : ignoredBy? p e = none)
    (kind : e.kind = .transaction) {i : IgnorePattern} (hi : i ∈ p.transactions) {text : String}
    (ht : e.transaction = some text) : i.isFoundIn text = false := by
  simp only [ignoredBy?, kind, ht, Option.map_eq_none_iff, List.find?_eq_none] at h
  simpa using h i hi

theorem mem_candidates_of_text {e : Event} {x : Exception} (hx : x ∈ e.exceptions) {text : String}
    (ht : text ∈ exceptionTexts x) : text ∈ candidates e :=
  List.mem_append_right _ (List.mem_flatMap.mpr ⟨x, hx, ht⟩)

theorem ignore_sees (p : IgnorePatterns) (e : Event) (seen : Sight) :
    Sees (ignore p e : ExceptT EventDrop (Run σ) Unit).run (ignore p e).run seen fun r seen' =>
      seen' = seen ∧ (r = some (.ok ()) → ignoredBy? p e = none) := by
  unfold ignore
  cases h : ignoredBy? p e with
  | none => exact .pure ⟨rfl, fun _ => rfl⟩
  | some text => exact .pure ⟨rfl, fun hr => by cases hr⟩

theorem sampleWith_sees (rate : Float32) (unit : Run σ Float32) (seen : Sight) :
    Sees (sampleWith unit rate) (sampleWith (unseen unit) rate) seen fun r seen' =>
      seen' = seen ∧ (r = some true → ¬ rate ≤ 0) := by
  have kept {draw : Float32} (h : some (keptAtRate rate draw) = some true) : ¬ rate ≤ 0 :=
    fun low => by simp [keptAtRate_of_le_zero low draw] at h
  unfold sampleWith
  split
  · exact .pure ⟨rfl, kept⟩
  · refine .bind (.unseen unit) (fun seen' h => ⟨h, nofun⟩) fun draw seen' h => ?_
    exact .pure ⟨h, kept⟩

theorem sample_sees (rate : Float32) (unit : Run σ Float32) (e : Event) (seen : Sight) :
    Sees (sample rate unit e).run (sample rate (unseen unit) e).run seen fun r seen' =>
      seen' = seen ∧ (r = some (.ok ()) →
        (e.kind = .transaction → e.traceContext?.bind TraceContext.sampled ≠ some false) ∧
        (e.kind = .default → ¬ rate ≤ 0)) := by
  unfold sample
  cases kind : e.kind with
  | checkIn => exact .pure ⟨rfl, fun _ => ⟨nofun, nofun⟩⟩
  | transaction =>
    by_cases h : e.traceContext?.bind TraceContext.sampled = some false
    · simp only [if_pos h]
      exact .pure ⟨rfl, nofun⟩
    · simp only [if_neg h]
      exact .pure ⟨rfl, fun _ => ⟨fun _ => h, nofun⟩⟩
  | default =>
    refine Sees.liftThen (sampleWith_sees rate unit seen) (fun seen' h => ⟨h.1, nofun⟩)
      fun kept seen' h => ?_
    cases kept with
    | true => exact .pure ⟨h.1, fun _ => ⟨nofun, fun _ => h.2 rfl⟩⟩
    | false => exact .pure ⟨h.1, nofun⟩

/-! ### The whole way -/

/-- The callbacks before the last one, in the order of being asked. -/
def Passage.early (k : Passage (Run σ)) : List Callback :=
  (List.range k.processors.length).map .processor ++
    (List.range k.integrations.length).map .integration

/-- All callbacks that an event meets if it is of a kind after the integrations. -/
def Passage.order (k : Passage (Run σ)) (kind : EventKind) : List Callback :=
  k.early ++ k.lastName kind

theorem not_last_of_mem_early {k : Passage (Run σ)} {name : Callback} (h : name ∈ k.early)
    (kind : EventKind) : name ≠ .last kind := by
  rintro rfl
  simp [Passage.early] at h

theorem eq_of_mem_lastName {k : Passage (Run σ)} {kind : EventKind} {name : Callback}
    (h : name ∈ k.lastName kind) : name = .last kind := by
  obtain ⟨_, _, rfl⟩ := List.mem_map.mp h
  rfl

theorem length_lastName_le (k : Passage (Run σ)) (kind : EventKind) :
    (k.lastName kind).length ≤ 1 := by
  rw [Passage.lastName, List.length_map]
  cases k.last kind <;> simp

theorem order_nodup (k : Passage (Run σ)) (kind : EventKind) : (k.order kind).Nodup := by
  have numbered (name : Nat → Callback) (inj : ∀ i j, i ≠ j → name i ≠ name j) (n : Nat) :
      ((List.range n).map name).Nodup := List.Pairwise.map name inj List.nodup_range
  have last : (k.lastName kind).Nodup := by
    rw [Passage.lastName]
    cases k.last kind <;> simp
  refine List.nodup_append.mpr ⟨List.nodup_append.mpr ⟨?_, ?_, ?_⟩, last, ?_⟩
  · exact numbered .processor (by simp) _
  · exact numbered .integration (by simp) _
  · rintro _ hp _ hi rfl
    obtain ⟨i, _, rfl⟩ := List.mem_map.mp hp
    simp at hi
  · rintro _ early name hl rfl
    exact not_last_of_mem_early early kind (eq_of_mem_lastName hl)

/-- An event that comes to the end of its way. -/
structure Arrives (c : Client) (k : Passage (Run σ)) (kind : EventKind) (calls : List Call)
    (left : Option Event) (e : Event) : Prop where
  left : left = some e
  all : calls.map Call.callback = k.order kind
  /-- Without a last callback it is the event itself that patterns and sampling have let through. -/
  passes : k.last kind = none → e.kind = kind ∧ Passes c e

/-- What is seen of the way of an event that starts as `start`, is of a kind `kind` after the
integrations, and of which `left` is left in the end. -/
structure Orderly (c : Client) (k : Passage (Run σ)) (start : Event) (kind : EventKind)
    (left : Option Event) (seen : Sight) : Prop where
  order : seen.calls.map Call.callback <+: k.order kind
  once : (seen.calls.map Call.callback).Nodup
  chain : Chain start seen.calls left
  stopped : ∀ before call after, seen.calls = before ++ call :: after → call.output? = none →
    after = [] ∧ seen.sent = []
  last : ∀ call ∈ seen.calls, ∀ kind', call.callback = .last kind' →
    call.input.kind = kind' ∧ Passes c call.input
  sent : ∀ envelope ∈ seen.sent, ∃ e,
    envelope = .ofItem (.ofEvent e) ∧ Arrives c k kind seen.calls left e
  single : seen.sent.length ≤ 1

namespace Orderly

variable {c : Client} {k : Passage (Run σ)} {start : Event} {kind : EventKind}
  {left : Option Event} {calls : List Call}

theorem unsent {names : List Callback} (asked : Asked names start calls left)
    (within : names <+: k.order kind)
    (last : ∀ call ∈ calls, ∀ kind', call.callback = .last kind' →
      call.input.kind = kind' ∧ Passes c call.input) :
    Orderly c k start kind left ⟨calls, []⟩ := by
  have order : calls.map Call.callback <+: k.order kind := asked.order.trans within
  refine ⟨order, (order_nodup k kind).sublist order.sublist, asked.chain, ?_, last, nofun, by simp⟩
  rintro before call after rfl stopped
  exact ⟨(asked.chain.eq_nil_of_stopped stopped).1, rfl⟩

/-- What is seen if nothing happens after some of the callbacks before the last one were asked. -/
theorem ofEarly {names : List Callback} (asked : Asked names start calls left)
    (within : names <+: k.early) (kind : EventKind) :
    Orderly c k start kind left ⟨calls, []⟩ := by
  refine unsent asked (within.trans (List.prefix_append _ _)) fun call hc kind' last => ?_
  have early : call.callback ∈ k.early :=
    (asked.order.trans within).subset (List.mem_map_of_mem hc)
  exact absurd last (not_last_of_mem_early early kind')

/-- What is seen if the last callback is asked about an event that nothing has stopped. -/
theorem ofLast {e : Event} {more : List Call} (asked : Asked k.early start calls (some e))
    (passes : Passes c e) (rest : Asked (k.lastName e.kind) e more left) :
    Orderly c k start e.kind left ⟨calls ++ more, []⟩ := by
  refine unsent (asked.append rest) (List.prefix_refl _) fun call hc kind' last => ?_
  rcases List.mem_append.mp hc with hc | hc
  · have early : call.callback ∈ k.early := asked.order.subset (List.mem_map_of_mem hc)
    exact absurd last (not_last_of_mem_early early kind')
  · have name := eq_of_mem_lastName (rest.order.subset (List.mem_map_of_mem hc))
    rw [rest.input_eq (length_lastName_le k e.kind) hc]
    cases last.symm.trans name
    exact ⟨rfl, passes⟩

/-- What is seen if an event that came to the end of its way is sent. -/
theorem send {e : Event} (h : Orderly c k start kind left ⟨calls, []⟩)
    (arrives : Arrives c k kind calls left e) :
    Orderly c k start kind left ⟨calls, [.ofItem (.ofEvent e)]⟩ where
  order := h.order
  once := h.once
  chain := h.chain
  stopped := by
    rintro before call after rfl stopped
    have gone := (h.chain.eq_nil_of_stopped stopped).2
    rw [arrives.left] at gone
    cases gone
  last := h.last
  sent := by
    rintro envelope hm
    exact ⟨e, List.mem_singleton.mp hm, arrives⟩
  single := Nat.le_refl 1

end Orderly

/-- An event that was given an identifier if it had none. -/
def Identified (e e' : Event) : Prop :=
  ∃ id, e' = { e with id } ∧ (e.id.isNil = false → id = e.id)

theorem identified_self (e : Event) : Identified e e := ⟨e.id, rfl, fun _ => rfl⟩

theorem identify_sees (uuid : Run σ Uuid) (e : Event) (seen : Sight) :
    Sees (identify uuid e) (identify (unseen uuid) e) seen fun r seen' =>
      seen' = seen ∧ ∀ e', r = some e' → Identified e e' := by
  unfold identify
  by_cases h : e.id.isNil = true
  · simp only [if_pos h]
    refine .bind (.unseen uuid) (fun seen' same => ⟨same, fun _ he => nomatch he⟩) ?_
    intro id seen' same
    have given : Identified e { e with id } := ⟨id, rfl, by simp [h]⟩
    exact .pure ⟨same, fun e' he => Option.some.inj he ▸ given⟩
  · simp only [if_neg h]
    exact .pure ⟨rfl, fun e' he => Option.some.inj he ▸ identified_self e⟩

/-- What is seen of an event's way up to the transport, with the event that goes on from there. -/
def Prepared (c : Client) (k : Passage (Run σ)) (start : Event) (result : Option Event)
    (seen : Sight) : Prop :=
  ∃ kind left calls, seen = ⟨calls, []⟩ ∧ Orderly c k start kind left ⟨calls, []⟩ ∧
    ∀ e, result = some e → Arrives c k kind calls left e

/-- An event that is stopped before the last callback. -/
theorem Prepared.stopped {c : Client} {k : Passage (Run σ)} {start : Event}
    {names : List Callback} {calls : List Call} {left : Option Event}
    (asked : Asked names start calls left) (within : names <+: k.early) :
    Prepared c k start none ⟨calls, []⟩ :=
  ⟨.default, left, calls, rfl, .ofEarly asked within .default, fun _ h => nomatch h⟩

theorem passes_of_filters {c : Client} {e : Event} (ignored : ignoredBy? c.patterns e = none)
    (decision : e.kind = .transaction → e.traceContext?.bind TraceContext.sampled ≠ some false)
    (rate : e.kind = .default → ¬ c.options.sampleRate ≤ 0) : Passes c e where
  message kind i hi text ht :=
    not_matches_of_candidate ignored kind hi (List.mem_append_left _ (by simp [ht]))
  exceptionType kind i hi x hx :=
    not_matches_of_candidate ignored kind hi (mem_candidates_of_text hx (by simp [exceptionTexts]))
  exceptionValue kind i hi x hx value hv :=
    ⟨not_matches_of_candidate ignored kind hi
        (mem_candidates_of_text hx (by simp [exceptionTexts, hv])),
      not_matches_of_candidate ignored kind hi
        (mem_candidates_of_text hx (by simp [exceptionTexts, hv]))⟩
  name kind i hi text ht := not_matches_of_name ignored kind hi ht
  sampled := decision
  rate := rate

/-- The stages after the processors and the integrations. -/
theorem finish_sees {c : Client} {k : Passage (Run σ)} {start e : Event} {calls : List Call}
    (asked : Asked k.early start calls (some e)) :
    Sees (c.finish k e).run (c.finish k.watched e).run ⟨calls, []⟩ fun r =>
      Prepared c k start (r.bind Except.toOption) := by
  -- Patterns and sampling call nothing: what was seen stays until the last callback is asked.
  have stopped : Prepared c k start none ⟨calls, []⟩ := .stopped asked (List.prefix_refl _)
  unfold finish
  refine .andThen (ignore_sees c.patterns e _) ?_ ?_ fun _ seen' ignored => ?_
  · rintro _ ⟨rfl, _⟩
    exact stopped
  · rintro d _ ⟨rfl, _⟩
    exact stopped
  obtain ⟨rfl, ignored⟩ := ignored
  refine .andThen (sample_sees _ k.unit e _) ?_ ?_ fun _ seen' sampled => ?_
  · rintro _ ⟨rfl, _⟩
    exact stopped
  · rintro d _ ⟨rfl, _⟩
    exact stopped
  obtain ⟨rfl, sampled⟩ := sampled
  obtain ⟨decision, rate⟩ := sampled rfl
  have passes : Passes c e := passes_of_filters (ignored rfl) decision rate
  refine (askLast_sees k e.kind e _).mono fun r seen' => ?_
  rintro ⟨more, rfl, rest⟩
  refine ⟨e.kind, _, calls ++ more, rfl, .ofLast asked passes rest, fun e' hr => ?_⟩
  rw [hr] at rest ⊢
  refine ⟨rfl, (asked.append rest).all rfl, fun none => ?_⟩
  rw [Passage.lastName, none] at rest
  rw [rest.eq_of_nil]
  exact ⟨rfl, passes⟩

theorem prepare_sees (k : Passage (Run σ)) (stack : Option Stacktrace) (traces : Traces)
    (scope : Option Scope) (c : Client) (e : Event) :
    Sees (c.prepare k stack traces scope e).run (c.prepare k.watched stack traces scope e).run
      .empty fun r seen => ∃ e', Identified e e' ∧
        Prepared c k (c.fillIn stack traces scope e') (r.bind Except.toOption) seen := by
  unfold prepare
  refine .liftThen (identify_sees k.uuid e _) ?_ fun e' seen identified => ?_
  · rintro _ ⟨rfl, _⟩
    exact ⟨e, identified_self e, .stopped .nobody (List.nil_prefix)⟩
  obtain ⟨rfl, identified⟩ := identified
  have identified : Identified e e' := identified e' rfl
  refine .andThen (askAll_sees .processor k.processors _ _) ?_ ?_ fun e₁ seen processed => ?_
  · rintro _ ⟨calls, rfl, asked⟩
    exact ⟨e', identified, .stopped asked (List.prefix_append _ _)⟩
  · rintro d _ ⟨calls, rfl, asked⟩
    exact ⟨e', identified, .stopped asked (List.prefix_append _ _)⟩
  obtain ⟨calls, rfl, processed⟩ := processed
  refine .andThen (askAll_sees .integration k.integrations e₁ _) ?_ ?_ fun e₂ seen integrated => ?_
  · rintro _ ⟨more, rfl, asked⟩
    exact ⟨e', identified, .stopped (processed.append asked) (List.prefix_refl _)⟩
  · rintro d _ ⟨more, rfl, asked⟩
    exact ⟨e', identified, .stopped (processed.append asked) (List.prefix_refl _)⟩
  obtain ⟨more, rfl, integrated⟩ := integrated
  exact (finish_sees (processed.append integrated)).mono fun _ _ h => ⟨e', identified, h⟩

/-- Whatever the callbacks, the transport and the draws do, what is seen of an event's way is orderly.
-/
theorem process_sees (k : Passage (Run σ)) (stack : Option Stacktrace) (traces : Traces)
    (scope : Option Scope) (c : Client) (e : Event) :
    Sees (c.process k stack traces scope e) (c.process k.watched stack traces scope e) .empty
      fun _ seen => ∃ e' kind left, Identified e e' ∧
        Orderly c k (c.fillIn stack traces scope e') kind left seen := by
  unfold process
  by_cases gone : c.current?.isNone = true
  · simp only [if_pos gone]
    exact .pure ⟨e, .default, _, identified_self e, .ofEarly .nobody List.nil_prefix .default⟩
  simp only [if_neg gone]
  refine .bind (prepare_sees k stack traces scope c e) ?_ ?_
  · rintro _ ⟨e', identified, kind, left, calls, rfl, orderly, _⟩
    exact ⟨e', kind, left, identified, orderly⟩
  rintro r _ ⟨e', identified, kind, left, calls, rfl, orderly, arrives⟩
  cases r with
  | error d => exact .pure ⟨e', kind, left, identified, orderly⟩
  | ok e₁ =>
    refine .bind (.unseen (k.isLimited _)) ?_ fun limited seen h => ?_
    · rintro _ rfl
      exact ⟨e', kind, left, identified, orderly⟩
    subst h
    cases limited with
    | true => exact .pure ⟨e', kind, left, identified, orderly⟩
    | false =>
      -- The envelope counts as sent even if the transport panics over it.
      have sent := orderly.send (arrives e₁ rfl)
      refine .bind (.send k _) ?_ ?_
      · rintro _ rfl
        exact ⟨e', kind, left, identified, sent⟩
      · rintro _ _ rfl
        exact .pure ⟨e', kind, left, identified, sent⟩

/-- Watching the way of an event changes nothing, and what is seen of it is orderly. -/
theorem process_orderly (k : Passage (Run σ)) (stack : Option Stacktrace) (traces : Traces)
    (scope : Option Scope) (c : Client) (e : Event) (s : σ) :
    ∃ seen, c.process k.watched stack traces scope e (s, .empty) =
        ((c.process k stack traces scope e s).1, (c.process k stack traces scope e s).2, seen) ∧
      ∃ e' kind left, Identified e e' ∧
        Orderly c k (c.fillIn stack traces scope e') kind left seen :=
  process_sees k stack traces scope c e s

end Telemetry.Client
