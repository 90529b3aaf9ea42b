import Telemetry.Proofs.Trace.Decision

/-! One trace in many processes. Its nodes are spans below other nodes and transactions that continue
from a node, in the same process from the node itself and anywhere from the headers it hands on. All
of them share the decision that was made for the first one. -/

namespace Telemetry

namespace Action

def continueSpan (n : Node) (name operation : String) (t : Target) : Action (Option Node) := do
  let traces := (← Run.get).traces
  return some (← startTransaction t (← draw (traces.continueFrom name operation n)))

def continueHeaders (headers : List (String × String)) (name operation : String) (t : Target) :
    Action (Option Node) := do
  return some (← startTransaction t (← draw (TransactionContext.ofHeaders name operation headers)))

end Action

/-- Processes with worlds of their own, and the nodes of one trace with the processes they are in. -/
structure Processes where
  worlds : Nat → World
  nodes : List (Nat × Node)

namespace Processes

/-- What goes on in processes. Nodes are given by their places among those of the trace. -/
inductive Move where
  | child (k : Nat) (operation description : String)
  | continueSpan (k : Nat) (name operation : String) (t : Target)
  | continueHeaders (k process : Nat) (name operation : String) (t : Target)
  | finish (k : Nat)
  /-- All the rest of a process may change in any way, and any nodes may be used. -/
  | other (process : Nat) (os : List Operation) (w : World)

/-- The headers that a node hands on. -/
def headers (s : Processes) (m : Nat × Node) : List (String × String) :=
  match (s.worlds m.1).traces.header? m.2 with
  | some h => h.headers
  | none => []

/-- A call in a process; what it starts is one more node. -/
def call (i : Nat) (x : Action (Option Node)) (s : Processes) : Processes :=
  match x (s.worlds i) with
  | (.done (some n), w) => ⟨Function.update s.worlds i w, s.nodes ++ [(i, n)]⟩
  | (_, w) => ⟨Function.update s.worlds i w, s.nodes⟩

/-- The traces of a process after operations on any nodes. -/
def operated (w : World) (os : List Operation) : Traces :=
  (({ Recording.empty with traces := w.traces } : Recording).performAll os).traces

def step (s : Processes) : Move → Processes
  | .child k operation description =>
    match s.nodes[k]? with
    | some (i, n) => s.call i (Action.startChild n operation description)
    | none => s
  | .continueSpan k name operation t =>
    match s.nodes[k]? with
    | some (i, n) => s.call i (Action.continueSpan n name operation t)
    | none => s
  | .continueHeaders k process name operation t =>
    match s.nodes[k]? with
    | some m => s.call process (Action.continueHeaders (s.headers m) name operation t)
    | none => s
  | .finish k =>
    match s.nodes[k]? with
    | some (i, n) => s.call i (do Action.finish n; return none)
    | none => s
  | .other process os w =>
    { s with
      worlds := Function.update s.worlds process
        { w with traces := operated (s.worlds process) os } }

def run (s : Processes) (moves : List Move) : Processes := moves.foldl step s

/-- Every node belongs to a trace and carries its decision. -/
def AllDecided (trace : TraceId) (d : Bool) (s : Processes) : Prop :=
  ∀ m ∈ s.nodes, (s.worlds m.1).traces.Decided trace d m.2

variable {trace : TraceId} {d : Bool} {s : Processes}

/-- A call that keeps what nodes carry, and may start a node of the same trace. -/
def Joins (trace : TraceId) (d : Bool) (w : World) (x : Action (Option Node)) : Prop :=
  w.traces.Continue (x w).2.traces ∧
    ∀ n, (x w).1 = .done (some n) → (x w).2.traces.Decided trace d n

theorem AllDecided.update (h : s.AllDecided trace d) {i : Nat} {w : World}
    (later : (s.worlds i).traces.Continue w.traces) :
    AllDecided trace d ⟨Function.update s.worlds i w, s.nodes⟩ := by
  rintro ⟨j, n⟩ hm
  have before := h (j, n) hm
  show ((Function.update s.worlds i w) j).traces.Decided trace d n
  by_cases same : j = i
  · subst same
    rw [Function.update_self]
    exact before.continue later
  · rw [Function.update_of_ne same]
    exact before

theorem AllDecided.call (h : s.AllDecided trace d) {i : Nat} {x : Action (Option Node)}
    (joins : Joins trace d (s.worlds i) x) : (s.call i x).AllDecided trace d := by
  obtain ⟨later, started⟩ := joins
  unfold Processes.call
  split
  · next n w ran =>
    rw [ran] at later started
    intro m hm
    rcases List.mem_append.mp hm with old | new
    · exact h.update later m old
    · obtain rfl := List.mem_singleton.mp new
      show ((Function.update s.worlds i w) i).traces.Decided trace d n
      rw [Function.update_self]
      exact started n rfl
  · next r w _ ran =>
    rw [ran] at later
    exact h.update later

theorem joins_startTransaction (t : Target) {c : TransactionContext} (decided : c.sampled = some d)
    (w : World) :
    Joins c.traceId d w (do return some (← Action.startTransaction t c)) := by
  obtain ⟨r, w', started, ⟨failed, same⟩ | ⟨client, sampled, spanId, now, takes, done⟩⟩ :=
    Action.startTransaction_cases t c w
  · have kept : w.traces.Continue w'.traces := by
      rw [same]
      exact .refl _
    unfold Joins
    cases r with
    | done n => exact absurd rfl (failed n)
    | panicked p =>
      rw [Action.bind_panicked started]
      exact ⟨kept, nofun⟩
    | blocked =>
      rw [Action.bind_blocked started]
      exact ⟨kept, nofun⟩
  · obtain rfl := takes d decided
    obtain ⟨rfl, traces⟩ := Prod.mk.inj done
    rw [Joins, Action.bind_done started]
    refine ⟨?_, ?_⟩
    · show w.traces.Continue w'.traces
      rw [traces]
      exact .addTransaction _
    · rintro _ ⟨⟩
      show w'.traces.Decided _ _ _
      rw [traces]
      exact Traces.decided_start w.traces client c spanId now

section

variable {w : World} {n : Node}

theorem joins_startChild (decided : w.traces.Decided trace d n) (operation description : String) :
    Joins trace d w (Action.startChild n operation description) := by
  rw [Joins, Action.startChild_eq]
  cases started : w.traces.startChild n operation description w.fresh.spanId.1 w.fresh.now with
  | none => exact ⟨.refl _, nofun⟩
  | some child =>
    refine ⟨.startChild started, ?_⟩
    rintro _ ⟨⟩
    exact decided.startChild started

theorem joins_continueSpan (decided : w.traces.Decided trace d n) (name operation : String)
    (t : Target) : Joins trace d w (Action.continueSpan n name operation t) := by
  obtain ⟨spanId, header⟩ := decided.header?
  let c := TransactionContext.continuing name operation ⟨trace, spanId, some d⟩
  have continues : w.traces.continueFrom name operation n w.fresh = (c, w.fresh) := by
    rw [Traces.continueFrom, header]
  have drawn : Action.draw (w.traces.continueFrom name operation n) w = (.done c, w) := by
    rw [Action.draw, Run.modifyGet, continues]
  have got : (Run.get : Action World) w = (.done w, w) := rfl
  have entered : Action.continueSpan n name operation t w = _ :=
    (Action.bind_done got).trans (Action.bind_done drawn)
  rw [Joins, entered]
  exact joins_startTransaction t (c := c) rfl w

theorem joins_continueHeaders {h : TraceHeader} (decided : h.sampled = some d)
    (name operation : String) (t : Target) :
    Joins h.traceId d w (Action.continueHeaders h.headers name operation t) := by
  let c := TransactionContext.continuing name operation h
  have drawn : Action.draw (TransactionContext.ofHeaders name operation h.headers) w =
      (.done c, w) := by
    rw [Action.draw, Run.modifyGet, TransactionContext.ofHeaders_headers]
  have entered : Action.continueHeaders h.headers name operation t w = _ := Action.bind_done drawn
  rw [Joins, entered]
  exact joins_startTransaction t (c := c) decided w

theorem joins_finish : Joins trace d w (do Action.finish n; return none) := by
  have later := Action.continue_finish n w
  unfold Joins
  rcases ran : Action.finish n w with ⟨r, w'⟩
  rw [ran] at later
  cases r with
  | done =>
    rw [Action.bind_done ran]
    exact ⟨later, nofun⟩
  | panicked p =>
    rw [Action.bind_panicked ran]
    exact ⟨later, nofun⟩
  | blocked =>
    rw [Action.bind_blocked ran]
    exact ⟨later, nofun⟩

end

/-- Every move keeps the decision. -/
theorem AllDecided.step (h : s.AllDecided trace d) (move : Move) :
    (s.step move).AllDecided trace d := by
  cases move with
  | child k operation description =>
    unfold Processes.step
    dsimp only
    split
    · next i n there =>
      have decided := h (i, n) (List.mem_of_getElem? there)
      exact h.call (joins_startChild decided operation description)
    · exact h
  | continueSpan k name operation t =>
    unfold Processes.step
    dsimp only
    split
    · next i n there =>
      have decided := h (i, n) (List.mem_of_getElem? there)
      exact h.call (joins_continueSpan decided name operation t)
    · exact h
  | continueHeaders k process name operation t =>
    unfold Processes.step
    dsimp only
    split
    · next m there =>
      obtain ⟨spanId, header⟩ := (h m (List.mem_of_getElem? there)).header?
      rw [headers, header]
      exact h.call (joins_continueHeaders (h := ⟨trace, spanId, some d⟩) rfl name operation t)
    · exact h
  | finish k =>
    unfold Processes.step
    dsimp only
    split
    · exact h.call joins_finish
    · exact h
  | other process os w =>
    exact h.update (Recording.continue_performAll
      { Recording.empty with traces := (s.worlds process).traces } os)

theorem AllDecided.run (h : s.AllDecided trace d) (moves : List Move) :
    (s.run moves).AllDecided trace d := by
  induction moves generalizing s with
  | nil => exact h
  | cons move moves ih => exact ih (h.step move)

theorem mem_call {m : Nat × Node} (hm : m ∈ s.nodes) (i : Nat) (x : Action (Option Node)) :
    m ∈ (s.call i x).nodes := by
  unfold Processes.call
  split
  · exact List.mem_append_left _ hm
  · exact hm

theorem mem_run {m : Nat × Node} (moves : List Move) (hm : m ∈ s.nodes) :
    m ∈ (s.run moves).nodes := by
  induction moves generalizing s with
  | nil => exact hm
  | cons move moves ih =>
    refine ih ?_
    cases move with
    | other => exact hm
    | child | continueSpan | continueHeaders | finish =>
      unfold Processes.step
      dsimp only
      split
      · exact mem_call hm _ _
      · exact hm

/-- A transaction is started. From then on every node of its trace, in whichever process, has the one
decision: the node itself, the context of a transaction, and what others read from the headers that
the node hands on. And if the decision is not to sample, finishing any of them hands nothing over. -/
theorem one_decision {t : Target} {c : TransactionContext} {w w' : World} {n : Node}
    (started : Action.startTransaction t c w = (.done n, w')) (others : Nat → World) (i : Nat) :
    ∃ d, ∀ moves : List Move,
      let s := Processes.run ⟨Function.update others i w', [(i, n)]⟩ moves
      (i, n) ∈ s.nodes ∧ ∀ m ∈ s.nodes,
        (s.worlds m.1).traces.Decided c.traceId d m.2 ∧
        (∃ h, (s.worlds m.1).traces.header? m.2 = some h ∧ h.traceId = c.traceId ∧
          h.sampled = some d ∧ ∀ v ∈ s.headers m, TraceHeader.parse? v.2 = some h) ∧
        (d = false → (Action.finish m.2 (s.worlds m.1)).1 = .done () ∧
          (Action.finish m.2 (s.worlds m.1)).2.clients = (s.worlds m.1).clients) := by
  obtain ⟨r, w₁, ran, ⟨failed, -⟩ | ⟨client, d, spanId, now, -, done⟩⟩ :=
    Action.startTransaction_cases t c w
  all_goals obtain ⟨rfl, rfl⟩ := Prod.mk.inj (started.symm.trans ran)
  · exact absurd rfl (failed n)
  · obtain ⟨node, traces⟩ := Prod.mk.inj done
    have first : w'.traces.Decided c.traceId d n := by
      rw [traces, Outcome.done.inj node]
      exact Traces.decided_start w.traces client c spanId now
    refine ⟨d, fun moves => ?_⟩
    intro s
    have all : s.AllDecided c.traceId d := by
      apply AllDecided.run
      intro m hm
      obtain rfl := List.mem_singleton.mp hm
      show ((Function.update others i w') i).traces.Decided _ _ _
      rwa [Function.update_self]
    refine ⟨mem_run moves (List.mem_singleton.mpr rfl), fun m hm => ?_⟩
    have decided := all m hm
    obtain ⟨id, header⟩ := decided.header?
    refine ⟨decided, ⟨_, header, rfl, rfl, fun v hv => ?_⟩, ?_⟩
    · rw [headers, header] at hv
      obtain rfl := List.mem_singleton.mp hv
      exact TraceHeader.parse?_text _
    · rintro rfl
      exact decided.finish

/-- A client that samples traces which come without a decision at a rate. -/
def sampling (rate : Float32) : Client :=
  .plain { Client.logging (some (.collecting fun _ => false)) with tracesSampleRate := rate }

def root : TransactionContext := ⟨"root", "task", HexId.ofNat 32 5, none, none⟩

/-- A client refuses a trace, and so does every client behind it. -/
theorem one_decision_refused :
    let w := World.single (sampling 0) Client.asleep
    let s := Processes.run
      ⟨Function.update (fun _ => World.single (sampling 1) Client.asleep) 0
        (Action.startTransaction (.hub 0) root w).2, [(0, .transaction 0)]⟩
      [.child 0 "call" "", .continueHeaders 1 1 "behind" "task" (.hub 0), .finish 2,
        .continueSpan 2 "further" "task" .active]
    s.nodes = [(0, .transaction 0), (0, .span 0), (1, .transaction 0), (1, .transaction 1)] ∧
      ∀ m ∈ s.nodes, (s.worlds m.1).traces.Decided root.traceId false m.2 := by
  obtain ⟨d, all⟩ := one_decision (t := .hub 0) (c := root)
    (w := World.single (sampling 0) Client.asleep) (n := .transaction 0) rfl
    (fun _ => World.single (sampling 1) Client.asleep) 0
  obtain ⟨t, there, -, sampled, -⟩ := ((all []).2 _ (all []).1).1
  have refused : d = false := by
    rw [← sampled]
    cases there
    decide +kernel
  subst refused
  exact ⟨by decide +kernel, fun m hm => ((all _).2 m hm).1⟩

end Processes

end Telemetry
