import Mathlib.Data.List.Nodup
import Telemetry.Proofs.Client.Frame
import Telemetry.Proofs.Client.Route
import Telemetry.Proofs.Hub.Task

/-! Two worlds in which one task runs. Each world keeps its frame: all hubs but those of the task, and
of its clients everything but what was handed to them. And the two are tied: the hubs of the task look
alike, and what it handed over looks alike. -/

namespace Telemetry

open Run

/-! ### Clients -/

namespace Client

variable {c c' c'' : Client}

/-- What becomes of a client that is handed some envelopes of events. -/
structure Takes (c c' : Client) (es : List Envelope) : Prop where
  frame : SameFrame c c'
  steady : c.Steady → c'.Steady
  captured : c'.captured = c.captured ++ es

theorem Takes.refl (c : Client) : Takes c c [] := ⟨.refl c, id, (List.append_nil _).symm⟩

theorem Takes.trans {es es' : List Envelope} (h : Takes c c' es) (h' : Takes c' c'' es') :
    Takes c c'' (es ++ es') :=
  ⟨h.frame.trans h'.frame, fun steady => h'.steady (h.steady steady), by
    rw [h'.captured, h.captured, List.append_assoc]⟩

theorem takes_turn (now : Instant) (pace : Emitter.Pace) (c : Client) :
    Takes c (c.turn now pace) [] :=
  ⟨sameFrame_run c (.work now pace), fun steady => kept_steady.run steady (.work now pace), by
    rw [(captured_turn now pace c).1, List.append_nil]⟩

theorem takes_send (now : Instant) (pace : Emitter.Pace) (e : Event)
    (attached : c.current?.isSome = true) :
    Takes c (c.send now pace (.ofItem (.ofEvent e))).client [.ofItem (.ofEvent e)] :=
  ⟨sameFrame_run c (.event now pace e), fun steady => kept_steady.run steady (.event now pace e),
    captured_send now pace e attached⟩

theorem handed_flushTransport (now : Instant) (pace : Emitter.Pace) (c : Client) :
    (c.flushTransport now pace).2.handed = c.handed := by
  unfold flushTransport
  split
  · rfl
  · next t there =>
    have offered := Transport.offered_flush now pace t
    simp [handed, transport_of_current there, offered]

theorem takes_flush (now : Instant) (pace : Emitter.Pace) (c : Client) :
    Takes c (c.flush now pace).client [] := by
  refine ⟨sameFrame_run c (.flush now pace),
    fun steady => kept_steady.run steady (.flush now pace), ?_⟩
  have passed : (c.flush now pace).client = _ := (Operation.flush now pace).run_eq c
  have logs := captured_passLogs now (Operation.flush now pace).logPace
    ((Operation.flush now pace).logs c) c
  have metrics := captured_passMetrics now (Operation.flush now pace).metricPace
    ((Operation.flush now pace).metrics c)
    (c.passLogs now (Operation.flush now pace).logPace ((Operation.flush now pace).logs c))
  rw [passed, List.append_nil, ← logs.1, ← metrics.1]
  exact congrArg (List.filter _) (handed_flushTransport now _ _)

/-- Two clients that treat alike events alike. -/
structure Twin (v : View) (c c' : Client) : Prop where
  frame : SameFrame c c'
  steady : c.Steady
  steady' : c'.Steady
  blind : c.Blind v

theorem Blind.sameFrame {v : View} (h : c.Blind v) (same : SameFrame c c') : c'.Blind v := by
  have extractors : c'.panicExtractors? = c.panicExtractors? := by
    rw [panicExtractors?, ← same.integrations, panicExtractors?]
  constructor
  · rw [← same.options]
    exact h.beforeSend
  · rw [← same.options]
    exact h.beforeSendTransaction
  · rw [← same.options, ← same.integrations]
    exact h.integrations
  · rw [extractors]
    exact h.extractors
  · rw [← same.options]
    exact h.beforeBreadcrumb
  · rw [← same.options]
    exact h.rate

theorem Twin.takes {v : View} {d d' : Client} {es es' : List Envelope} (h : Twin v c c')
    (left : Takes c d es) (right : Takes c' d' es') : Twin v d d' :=
  ⟨(left.frame.symm.trans h.frame).trans right.frame, left.steady h.steady,
    right.steady h.steady', h.blind.sameFrame left.frame⟩

end Client

/-! ### One world -/

variable {ρ : Type} {K : ClientId → Prop} {v : View}

/-- Nothing that a task could tell has changed in a world. -/
structure World.Aside (w u : World) : Prop where
  stack : u.stack = w.stack
  traces : u.traces = w.traces
  hooked : u.hooked = w.hooked
  boundaries : u.thread.boundaries = w.thread.boundaries
  bound : u.thread.bound = w.thread.bound
  clients : u.clients = w.clients
  hubs : u.hubs = w.hubs

/-- What is left of a world while a task runs in it, bound to `o`. Of the hubs that were there the task
uses its own. -/
structure Confined (b : World) (own : List HubId) (o : Option HubId)
    (l : Locals ρ) (w : World) : Prop where
  stack : w.stack = b.stack
  traces : w.traces = b.traces
  hooked : w.hooked = b.hooked
  boundaries : w.thread.boundaries = b.thread.boundaries
  bound : w.thread.bound = o
  clients : ∀ k : ClientId,
    Option.Rel (fun c c' => ∃ es, Client.Takes c c' es) b.clients[k]? w.clients[k]?
  distinct : l.hubs.Nodup
  inside : ∀ h ∈ l.hubs, h < w.hubs.length
  grows : b.hubs.length ≤ w.hubs.length
  others : ∀ h : HubId, h < b.hubs.length → h ∉ own → h ∉ l.hubs ∧ w.hubs[h]? = b.hubs[h]?

namespace Confined

variable {b w u : World} {own : List HubId} {o : Option HubId} {l : Locals ρ}

theorem aside (h : Confined b own o l w) (a : w.Aside u) : Confined b own o l u where
  stack := a.stack.trans h.stack
  traces := a.traces.trans h.traces
  hooked := a.hooked.trans h.hooked
  boundaries := a.boundaries.trans h.boundaries
  bound := a.bound.trans h.bound
  clients := by rw [a.clients]; exact h.clients
  distinct := h.distinct
  inside := by rw [a.hubs]; exact h.inside
  grows := by rw [a.hubs]; exact h.grows
  others := by rw [a.hubs]; exact h.others

theorem rebound (h : Confined b own o l w) (o' : Option HubId) :
    Confined b own o' l { w with thread := { w.thread with bound := o' } } :=
  { h with bound := rfl }

theorem setClient (h : Confined b own o l w) {k : ClientId} {c c' : Client}
    (there : w.clients[k]? = some c) {es : List Envelope} (takes : Client.Takes c c' es) :
    Confined b own o l { w with clients := w.clients.set k c' } := by
  refine { h with clients := fun j => ?_ }
  have before := h.clients j
  show Option.Rel _ _ (w.clients.set k c')[j]?
  by_cases same : k = j
  · subst same
    obtain ⟨inside, -⟩ := List.getElem?_eq_some_iff.mp there
    rw [there] at before
    rw [List.getElem?_set_self inside]
    generalize b.clients[k]? = x at before
    cases before with
    | some first =>
      obtain ⟨es', first⟩ := first
      exact .some ⟨_, first.trans takes⟩
  · rwa [List.getElem?_set_ne same]

theorem editHub (h : Confined b own o l w) {i : HubId} (mine : i ∈ l.hubs) (f : Hub → Hub) :
    Confined b own o l (w.editHub i f) := by
  have length := w.length_editHub i f
  refine { h with inside := ?_, grows := ?_, others := fun j hj apart => ?_ }
  · rw [length]
    exact h.inside
  · rw [length]
    exact h.grows
  · obtain ⟨notMine, same⟩ := h.others j hj apart
    have ne : i ≠ j := fun eq => notMine (eq ▸ mine)
    exact ⟨notMine, (List.getElem?_modify_ne _ _ ne).trans same⟩

theorem addHub (h : Confined b own o l w) (hub : Hub) :
    Confined b own o { l with hubs := l.hubs ++ [w.hubs.length] }
      { w with hubs := w.hubs ++ [hub] } := by
  refine { h with distinct := ?_, inside := ?_, grows := ?_, others := fun j hj apart => ?_ }
  · refine List.nodup_append.mpr ⟨h.distinct, by simp, fun x hx y hy => ?_⟩
    rw [List.mem_singleton.mp hy]
    exact Nat.ne_of_lt (h.inside x hx)
  · intro x hx
    rw [List.length_append, List.length_singleton]
    rcases List.mem_append.mp hx with old | new
    · exact Nat.lt_succ_of_lt (h.inside x old)
    · rw [List.mem_singleton.mp new]
      exact Nat.lt_succ_self _
  · rw [List.length_append]
    exact Nat.le_add_right_of_le h.grows
  · obtain ⟨notMine, same⟩ := h.others j hj apart
    have inside : j < w.hubs.length := Nat.lt_of_lt_of_le hj h.grows
    refine ⟨?_, (List.getElem?_append_left inside).trans same⟩
    intro mine
    rcases List.mem_append.mp mine with old | new
    · exact notMine old
    · rw [List.mem_singleton.mp new] at inside
      exact absurd inside (Nat.lt_irrefl _)

theorem locals (h : Confined b own o l w) (guards : List ScopeGuard) (kept : ρ) :
    Confined b own o { l with guards, kept } w := { h with }

theorem since_setClient (h : Confined b own o l w) {k : ClientId} {c c' : Client}
    (there : w.clients[k]? = some c) {es : List Envelope} (takes : Client.Takes c c' es)
    (j : ClientId) :
    b.since { w with clients := w.clients.set k c' } j =
      b.since w j ++ if k = j then es else [] := by
  by_cases same : k = j
  · subst same
    obtain ⟨inside, -⟩ := List.getElem?_eq_some_iff.mp there
    have before := h.clients k
    rw [there] at before
    have after : (w.clients.set k c')[k]? = some c' := List.getElem?_set_self inside
    simp only [World.since, World.capturedBy, after, there, Option.map_some, Option.getD_some,
      takes.captured, if_true]
    refine List.drop_append_of_le_length ?_
    generalize b.clients[k]? = x at before
    cases before with
    | some first =>
      obtain ⟨es', first⟩ := first
      simp [first.captured]
  · have apart : (w.clients.set k c')[j]? = w.clients[j]? := List.getElem?_set_ne same
    simp [World.since, World.capturedBy, apart, same]

end Confined

/-! ### Two worlds -/

/-- The numbers of one hub of a task in two worlds. -/
def Paired (l l' : Locals ρ) (h h' : HubId) : Prop :=
  ∃ i : Nat, l.hubs[i]? = some h ∧ l'.hubs[i]? = some h'

namespace Paired

variable {l l' : Locals ρ} {h h' k k' : HubId}

theorem left (p : Paired l l' h h') : h ∈ l.hubs := by
  obtain ⟨i, at_, -⟩ := p
  exact List.mem_of_getElem? at_

theorem right (p : Paired l l' h h') : h' ∈ l'.hubs := by
  obtain ⟨i, -, at_⟩ := p
  exact List.mem_of_getElem? at_

theorem getElem?_of_prefix {α : Type} {xs ys : List α} (h : xs <+: ys) {i : Nat} {x : α}
    (at_ : xs[i]? = some x) : ys[i]? = some x := by
  obtain ⟨rest, rfl⟩ := h
  obtain ⟨inside, -⟩ := List.getElem?_eq_some_iff.mp at_
  rwa [List.getElem?_append_left inside]

theorem grow {m m' : Locals ρ} (p : Paired l l' h h') (grown : l.hubs <+: m.hubs)
    (grown' : l'.hubs <+: m'.hubs) : Paired m m' h h' := by
  obtain ⟨i, at_, at_'⟩ := p
  exact ⟨i, getElem?_of_prefix grown at_, getElem?_of_prefix grown' at_'⟩

theorem of_append {n n' : HubId}
    (p : Paired { l with hubs := l.hubs ++ [n] } { l' with hubs := l'.hubs ++ [n'] } h h')
    (length : l.hubs.length = l'.hubs.length) : Paired l l' h h' ∨ h = n ∧ h' = n' := by
  obtain ⟨i, at_, at_'⟩ := p
  rcases Nat.lt_or_ge i l.hubs.length with old | new
  · rw [List.getElem?_append_left old] at at_
    rw [List.getElem?_append_left (length ▸ old)] at at_'
    exact .inl ⟨i, at_, at_'⟩
  · rw [List.getElem?_append_right new, List.getElem?_singleton] at at_
    rw [List.getElem?_append_right (length ▸ new), List.getElem?_singleton] at at_'
    simp only [Option.ite_none_right_eq_some, Option.some.injEq] at at_ at_'
    exact .inr ⟨at_.2.symm, at_'.2.symm⟩

theorem eq_iff (p : Paired l l' h h') (q : Paired l l' k k') (distinct : l.hubs.Nodup)
    (distinct' : l'.hubs.Nodup) : h = k ↔ h' = k' := by
  obtain ⟨i, hi, hi'⟩ := p
  obtain ⟨j, hj, hj'⟩ := q
  obtain ⟨bound, rfl⟩ := List.getElem?_eq_some_iff.mp hi
  obtain ⟨bound', rfl⟩ := List.getElem?_eq_some_iff.mp hi'
  obtain ⟨-, rfl⟩ := List.getElem?_eq_some_iff.mp hj
  obtain ⟨-, rfl⟩ := List.getElem?_eq_some_iff.mp hj'
  rw [distinct.getElem_inj_iff, distinct'.getElem_inj_iff]

end Paired

/-- Layers that use clients in `K` alone, with callbacks that a view hides nothing from. -/
structure Layers.Fit (K : ClientId → Prop) (v : View) (s : Layers) : Prop where
  clients : ∀ x ∈ s.toList, ∀ k, x.client = some k → K k
  blind : s.Blind v

/-- Two worlds before a task runs in them. -/
structure Alike (K : ClientId → Prop) (v : View) (b b' : World) : Prop where
  stack : b.stack = b'.stack
  traces : b.traces = b'.traces
  hooked : b.hooked = b'.hooked
  boundaries : b.thread.boundaries = b'.thread.boundaries
  clients : ∀ k : ClientId, K k → Option.Rel (Client.Twin v) b.clients[k]? b'.clients[k]?

/-- A task keeps the same in two worlds, up to the numbers of its hubs. -/
structure Locals.Same (l l' : Locals ρ) : Prop where
  length : l.hubs.length = l'.hubs.length
  kept : l.kept = l'.kept
  guards : List.Forall₂ (fun g g' => g.depth = g'.depth ∧ Paired l l' g.hub g'.hub) l.guards
    l'.guards

/-- What a task has in two worlds looks alike. Of its hubs one may be written to. -/
structure Belongings (K : ClientId → Prop) (v : View) (lock : Option HubId) (l l' : Locals ρ)
    (w w' : World) : Prop extends Locals.Same l l' where
  hubs : ∀ h h', Paired l l' h h' → (w.hub h).seen v = (w'.hub h').seen v ∧
    (w.hub h).layers.Fit K v ∧ ((w.hub h).locked = true ↔ lock = some h)

/-- What a task has looks alike, and so does what it has handed over. -/
structure Corresponds (K : ClientId → Prop) (v : View) (b b' : World) (lock : Option HubId)
    (l l' : Locals ρ) (w w' : World) : Prop extends Belongings K v lock l l' w w' where
  fresh : v = .sharp → w.fresh = w'.fresh
  events : ∀ k, (b.since w k).map (Envelope.seen v) = (b'.since w' k).map (Envelope.seen v)

/-- Two worlds from which a task starts, with the hubs that it has in them, the clients that it may
use, and the view in which what it does is compared. -/
structure Bench where
  clients : ClientId → Prop
  view : View
  before : World
  before' : World
  own : List HubId
  own' : List HubId

/-- Two worlds in which a task runs. -/
structure Linked (g : Bench) (o o' lock : Option HubId) (l l' : Locals ρ) (w w' : World) : Prop where
  left : Confined g.before g.own o l w
  right : Confined g.before' g.own' o' l' w'
  tie : Corresponds g.clients g.view g.before g.before' lock l l' w w'

/-- The two worlds from which a task starts are alike. -/
def Bench.Fair (g : Bench) : Prop := Alike g.clients g.view g.before g.before'

namespace Linked

variable {g : Bench} {w w' u u' : World} {o o' lock : Option HubId} {l l' : Locals ρ}

theorem twin (fair : g.Fair) (h : Linked g o o' lock l l' w w') {k : ClientId}
    (hk : g.clients k) : Option.Rel (Client.Twin g.view) w.clients[k]? w'.clients[k]? := by
  have base := fair.clients k hk
  have left := h.left.clients k
  have right := h.right.clients k
  generalize g.before.clients[k]? = x at base left
  generalize g.before'.clients[k]? = x' at base right
  cases base with
  | none =>
    generalize w.clients[k]? = y at left
    generalize w'.clients[k]? = y' at right
    cases left
    cases right
    exact .none
  | some twin =>
    generalize w.clients[k]? = y at left
    generalize w'.clients[k]? = y' at right
    obtain ⟨es, left⟩ := left
    obtain ⟨es', right⟩ := right
    exact .some (twin.takes left right)

/-- The worlds that a task goes on in are alike. -/
theorem alike (fair : g.Fair) (h : Linked g o o' lock l l' w w') :
    Alike g.clients g.view w w' where
  stack := by rw [h.left.stack, h.right.stack, fair.stack]
  traces := by rw [h.left.traces, h.right.traces, fair.traces]
  hooked := by rw [h.left.hooked, h.right.hooked, fair.hooked]
  boundaries := by rw [h.left.boundaries, h.right.boundaries, fair.boundaries]
  clients _ hk := h.twin fair hk

theorem aside (h : Linked g o o' lock l l' w w') (a : w.Aside u) (a' : w'.Aside u')
    (fresh : g.view = .sharp → u.fresh = u'.fresh) : Linked g o o' lock l l' u u' := by
  refine ⟨h.left.aside a, h.right.aside a', { h.tie with fresh, hubs := ?_, events := ?_ }⟩
  · simp only [World.hub, a.hubs, a'.hubs]
    exact h.tie.hubs
  · simp only [World.since, World.capturedBy, a.clients, a'.clients]
    exact h.tie.events

theorem setClients (h : Linked g o o' lock l l' w w') {k : ClientId} {c c' d d' : Client}
    {es es' : List Envelope} (there : w.clients[k]? = some c) (there' : w'.clients[k]? = some c')
    (takes : Client.Takes c d es) (takes' : Client.Takes c' d' es')
    (alike : es.map (Envelope.seen g.view) = es'.map (Envelope.seen g.view)) :
    Linked g o o' lock l l' { w with clients := w.clients.set k d }
      { w' with clients := w'.clients.set k d' } := by
  refine ⟨h.left.setClient there takes, h.right.setClient there' takes',
    { h.tie with events := fun j => ?_ }⟩
  rw [h.left.since_setClient there takes, h.right.since_setClient there' takes', List.map_append,
    List.map_append, h.tie.events j]
  congr 1
  split
  · exact alike
  · rfl

/-- A hub of the task is changed, in both worlds alike. -/
theorem editHubs (h : Linked g o o' lock l l' w w') {i i' : HubId} (pair : Paired l l' i i')
    {f f' : Hub → Hub} {lock' : Option HubId}
    (seen : (f (w.hub i)).seen g.view = (f' (w'.hub i')).seen g.view)
    (fit : (f (w.hub i)).layers.Fit g.clients g.view)
    (locked : (f (w.hub i)).locked = true ↔ lock' = some i)
    (others : ∀ j, j ≠ i → (lock = some j ↔ lock' = some j)) :
    Linked g o o' lock' l l' (w.editHub i f) (w'.editHub i' f') := by
  refine ⟨h.left.editHub pair.left f, h.right.editHub pair.right f',
    { h.tie with hubs := fun j j' other => ?_ }⟩
  have same := pair.eq_iff other h.left.distinct h.right.distinct
  by_cases eq : i = j
  · subst eq
    obtain rfl := same.mp rfl
    rw [World.hub_editHub_self (h.left.inside i pair.left),
      World.hub_editHub_self (h.right.inside _ pair.right)]
    exact ⟨seen, fit, locked⟩
  · rw [World.hub_editHub_ne eq, World.hub_editHub_ne (fun eq' => eq (same.mpr eq'))]
    obtain ⟨seen, fit, locked⟩ := h.tie.hubs j j' other
    exact ⟨seen, fit, locked.trans (others j (Ne.symm eq))⟩

/-- The task makes a hub, in both worlds alike. -/
theorem addHubs (h : Linked g o o' none l l' w w') {x x' : Hub}
    (seen : x.seen g.view = x'.seen g.view) (fit : x.layers.Fit g.clients g.view)
    (unlocked : x.locked = false) :
    Linked g o o' none { l with hubs := l.hubs ++ [w.hubs.length] }
      { l' with hubs := l'.hubs ++ [w'.hubs.length] } { w with hubs := w.hubs ++ [x] }
      { w' with hubs := w'.hubs ++ [x'] } := by
  refine ⟨h.left.addHub x, h.right.addHub x',
    { h.tie with length := ?_, guards := ?_, hubs := fun i i' pair => ?_ }⟩
  · simpa using h.tie.length
  · exact h.tie.guards.imp fun _ _ both =>
      ⟨both.1, both.2.grow (List.prefix_append ..) (List.prefix_append ..)⟩
  · rw [World.hub_addHub, World.hub_addHub]
    rcases pair.of_append h.tie.length with old | ⟨rfl, rfl⟩
    · have inside := h.left.inside i old.left
      have inside' := h.right.inside i' old.right
      rw [if_neg (Nat.ne_of_lt inside), if_neg (Nat.ne_of_lt inside')]
      exact h.tie.hubs i i' old
    · rw [if_pos rfl, if_pos rfl]
      exact ⟨seen, fit, by simp [unlocked]⟩

theorem setGuards (h : Linked g o o' lock l l' w w') {guards guards' : List ScopeGuard}
    (alike : List.Forall₂ (fun x x' => x.depth = x'.depth ∧ Paired l l' x.hub x'.hub) guards
      guards') :
    Linked g o o' lock { l with guards } { l' with guards := guards' } w w' :=
  ⟨h.left.locals guards l.kept, h.right.locals guards' l'.kept, { h.tie with guards := alike }⟩

theorem setKept (h : Linked g o o' lock l l' w w') (kept : ρ) :
    Linked g o o' lock { l with kept } { l' with kept } w w' :=
  ⟨h.left.locals l.guards kept, h.right.locals l'.guards kept, { h.tie with kept := rfl }⟩

theorem rebound (h : Linked g o o' lock l l' w w') (a a' : Option HubId) :
    Linked g a a' lock l l' { w with thread := { w.thread with bound := a } }
      { w' with thread := { w'.thread with bound := a' } } :=
  ⟨h.left.rebound a, h.right.rebound a', { h.tie with }⟩

end Linked

end Telemetry
