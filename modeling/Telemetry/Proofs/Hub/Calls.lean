import Telemetry.Hub.Scopes
import Telemetry.Hub.Switch
import Telemetry.Init
import Telemetry.Proofs.Hub.Restoring

/-! Everything that a program may call. What code does under a layer, a lock or a boundary, or in
another hub, it does between a call that begins this and one that ends it; so a program is a
sequence of calls, whatever it is made of. A client meets only operations of its own in it, and
being closed. -/

namespace Telemetry

namespace Action

/-- A call of the library, or one of the steps that a call with code in it is made of. -/
inductive Call : {α : Type} → Action α → Prop
  | find (t : Target) : Call t.find?
  | resolve (t : Target) : Call t.resolve
  | addHub (hub : Hub) : Call (addHub hub)
  | forkHub (h : HubId) : Call (forkHub h)
  | cloneHub (h : HubId) : Call (cloneHub h)
  | bindClient (h : HubId) (c : Option ClientId) : Call (bindClient h c)
  | pushScope (h : HubId) : Call (pushScope h)
  | popScope (h : HubId) : Call (popScope h)
  | dropScope (g : ScopeGuard) : Call g.drop
  /-- Code begins or stops to have the layers of a hub for itself. -/
  | setLocked (h : HubId) (locked : Bool) : Call (setLocked h locked)
  | editScope (h : HubId) (f : Scope → Scope) : Call (editScope h f)
  | switch (h : HubId) : Call (Switch.new h)
  | switchBack (s : Switch) : Call s.drop
  /-- The thread enters a boundary or leaves it, or another thread goes on. -/
  | editThread (f : ThreadState → ThreadState) : Call (editThread f)
  | startTransaction (t : Target) (c : TransactionContext) : Call (startTransaction t c)
  | startChild (n : Node) (op description : String) : Call (startChild n op description)
  | editTraces (f : Traces → Traces) : Call (editTraces f)
  | lastEventId (t : Target) : Call (lastEventId t)
  | findIntegration (t : Target) (p : IntegrationKind → Bool) : Call (findIntegration? t p)
  | capture (t : Target) (o : Occasion) : Call (captureOn t o)
  | use (x : Usage) : Call (use x)
  | panic {α : Type} (p : Payload) : Call (Action.panic p : Action α)
  /-- A panic leaves a boundary. -/
  | report (h : HubId) (p : Payload) : Call (reportAtBoundary h p)
  | close (c : ClientId) : Call (closeClient c)
  | newClient [PatternLanguage] (o : ClientOptions) : Call (newClient o)
  | newClientOrDisabled [PatternLanguage] (o : ClientOptions) : Call (newClientOrDisabled o)
  | init [Host.Names] [PatternLanguage] (env : Environment) (c : Configuration) :
      Call (c.init env)
  | dropInit (g : InitGuard) : Call g.drop

/-- One call after the other, each ending in any way. -/
inductive Calls : World → World → Prop
  | rest (w : World) : Calls w w
  | call {α : Type} {x : Action α} {w w' : World} : Call x → Calls (x w).2 w' → Calls w w'

/-- A property of clients that nothing takes from them. -/
structure Permanent (Q : Client → Prop) : Prop where
  lasting : Client.Lasting Q
  close : ∀ now pace c, Q c → Q (Client.close now pace c).client

open Run

variable {α : Type} {k : ClientId} {Q : Client → Prop}

/-! ### Calls that have to do with no client -/

theorem keeps_editLayers (h : HubId) (f : Layers → α × Layers) :
    Keeps (World.Has k Q) (editLayers h f) :=
  .bind (keeps_layers h) fun _ => .bind (keeps_aside fun _ => rfl) fun _ => .pure _

theorem keeps_startTransaction (t : Target) (c : TransactionContext) :
    Keeps (World.Has k Q) (startTransaction t c) := by
  refine .bind (keeps_visit t none fun h => .bind keeps_top fun _ => .pure _) fun id => ?_
  refine .bind ?_ fun client => ?_
  · cases id with
    | none => exact .pure _
    | some c => exact keeps_aside fun _ => rfl
  · split <;> exact .bind (keeps_aside fun _ => rfl) fun sampled =>
      .bind (keeps_aside fun _ => rfl) fun spanId => .bind (keeps_aside fun _ => rfl) fun now =>
        keeps_aside fun _ => rfl

theorem keeps_startChild (n : Node) (op description : String) :
    Keeps (World.Has k Q) (startChild n op description) := by
  refine .bind (keeps_aside fun _ => rfl) fun spanId => ?_
  refine .bind (keeps_aside fun _ => rfl) fun now => ?_
  refine keeps_aside fun w => ?_
  dsimp only [Run.modifyGet]
  cases w.traces.startChild n op description spanId now <;> rfl

/-! ### New clients -/

theorem keeps_addClient (client : Client) : Keeps (World.Has k Q) (addClient client) := by
  rintro w ⟨c, there, holds⟩
  obtain ⟨inside, -⟩ := List.getElem?_eq_some_iff.mp there
  exact ⟨c, (List.getElem?_append_left inside).trans there, holds⟩

theorem keeps_newClient [PatternLanguage] (o : ClientOptions) :
    Keeps (World.Has k Q) (newClient o) := by
  unfold newClient
  split
  · exact .pure _
  · refine .bind (.bind keeps_currentHub fun _ => .pure _) fun _ => ?_
    refine .bind (keeps_aside fun _ => rfl) fun _ => ?_
    have added (client : Client) : Keeps (World.Has k Q) (do
        return .ok (← addClient client) : Action (Except ConfigError ClientId)) :=
      .bind (keeps_addClient client) fun _ => .pure _
    split
    · exact .bind (keeps_aside fun _ => rfl) fun _ => added _
    · exact added _

theorem keeps_init [Host.Names] [PatternLanguage] (env : Environment) (c : Configuration) :
    Keeps (World.Has k Q) (c.init env) := by
  unfold Configuration.init
  split
  · exact .pure _
  · refine .bind (keeps_newClient _) fun made => ?_
    cases made with
    | error e => exact .pure _
    | ok c =>
      refine .bind keeps_currentHub fun h => .bind (keeps_editLayers h _) fun _ => ?_
      refine .bind (keeps_aside fun _ => rfl) fun client => ?_
      split <;> exact .bind (keeps_aside fun _ => rfl) fun _ => .pure _

/-! ### Calls that may reach a client -/

section

variable (permanent : Permanent Q)
include permanent

theorem keeps_closeClient (c : ClientId) : Keeps (World.Has k Q) (closeClient c) :=
  keeps_onClient permanent.lasting c true permanent.close

theorem keeps_noticePanic (p : Payload) : Keeps (World.Has k Q) (noticePanic p) := by
  refine keeps_visit .active () fun h => .bind keeps_top fun top => .bind ?_ fun client => ?_
  · cases top.client with
    | none => exact .pure _
    | some c => exact keeps_aside fun _ => rfl
  · split
    · refine .bind .get fun w => .bind (keeps_aside fun _ => rfl) fun inside => ?_
      split
      · exact .bind (keeps_aside fun _ => rfl) fun _ => keeps_aside fun _ => rfl
      · refine .bind (keeps_aside fun _ => rfl) fun _ => ?_
        refine .bind (keeps_aside fun _ => rfl) fun blank => ?_
        refine .bind (keeps_captureIn permanent.lasting h _ _) fun id => ?_
        refine .bind (keeps_aside fun _ => rfl) fun _ => ?_
        exact .bind (keeps_flush permanent.lasting _) fun _ => .pure _
    · exact .pure _

theorem keeps_panic (p : Payload) : Keeps (World.Has k Q) (Action.panic p : Action α) := by
  refine .bind .get fun w => ?_
  split
  · exact .bind (keeps_noticePanic permanent p) fun _ => keeps_aside fun _ => rfl
  · exact keeps_aside fun _ => rfl

theorem keeps_reportAtBoundary (h : HubId) (p : Payload) :
    Keeps (World.Has k Q) (reportAtBoundary h p) := by
  -- what follows whether the panic was reported before or not
  have left : Keeps (World.Has k Q) (do
      if !(← isInsideBoundary) then
        editThread fun t => { t with reported := none }
        discard <| flush (.hub h) : Action Unit) := by
    refine .bind (keeps_aside fun _ => rfl) fun inside => ?_
    split
    · refine .bind (keeps_aside fun _ => rfl) fun _ => ?_
      exact .bind (keeps_flush permanent.lasting _) fun _ => .pure _
    · exact .pure _
  refine .bind (keeps_aside fun _ => rfl) fun thread => ?_
  split
  · refine .bind (keeps_aside fun _ => rfl) fun _ => .bind ?_ fun id =>
      .bind (keeps_aside fun _ => rfl) fun _ => left
    refine .bind (keeps_aside fun _ => rfl) fun stack => ?_
    refine .bind (keeps_aside fun _ => rfl) fun blank => ?_
    exact keeps_captureIn permanent.lasting h _ _
  · exact left

/-- A call leaves everything about a client that its operations and closing it leave. -/
theorem Call.keeps {x : Action α} (call : Call x) : Keeps (World.Has k Q) x := by
  cases call with
  | find t => exact keeps_find t
  | resolve t => exact keeps_resolve t
  | addHub hub => exact keeps_aside fun _ => rfl
  | forkHub h => exact .bind keeps_top fun _ => keeps_aside fun _ => rfl
  | cloneHub h =>
    exact .bind (keeps_layers h) fun _ => .bind .get fun _ => keeps_aside fun _ => rfl
  | bindClient h c => exact keeps_editLayers h _
  | pushScope h => exact keeps_editLayers h _
  | popScope h =>
    refine .bind (keeps_editLayers h _) fun popped => ?_
    split
    · exact keeps_aside fun _ => rfl
    · exact .pure _
  | dropScope g =>
    refine .bind (keeps_editLayers g.hub _) fun depth => ?_
    split
    · exact keeps_aside fun _ => rfl
    · exact .pure _
  | setLocked h locked => exact keeps_aside fun _ => rfl
  | editScope h f => exact keeps_aside fun _ => rfl
  | switch h =>
    refine .bind (keeps_aside fun _ => rfl) fun thread => ?_
    dsimp only
    split
    · exact .pure _
    · exact .bind (keeps_aside fun _ => rfl) fun _ => .pure _
  | switchBack s =>
    obtain ⟨previous⟩ := s
    cases previous with
    | none => exact .pure ()
    | some bound => exact keeps_aside fun _ => rfl
  | editThread f => exact keeps_aside fun _ => rfl
  | startTransaction t c => exact keeps_startTransaction t c
  | startChild n op description => exact keeps_startChild n op description
  | editTraces f => exact keeps_aside fun _ => rfl
  | lastEventId t => exact .bind (keeps_resolve t) fun _ => .bind .get fun _ => .pure _
  | findIntegration t p =>
    refine keeps_visit t none fun h => .bind keeps_top fun top => ?_
    split
    · exact .bind (keeps_aside fun _ => rfl) fun _ => .pure _
    · exact .pure _
  | capture t o => exact keeps_occasion permanent.lasting t o
  | use x => exact keeps_use permanent.lasting x
  | panic p => exact keeps_panic permanent p
  | report h p => exact keeps_reportAtBoundary permanent h p
  | close c => exact keeps_closeClient permanent c
  | newClient o => exact keeps_newClient o
  | newClientOrDisabled o =>
    refine .bind (keeps_newClient o) fun made => ?_
    cases made with
    | ok c => exact .pure c
    | error e => exact .bind (keeps_aside fun _ => rfl) fun _ => keeps_addClient _
  | init env c => exact keeps_init env c
  | dropInit g =>
    refine .bind .get fun w => ?_
    split <;> exact .bind (keeps_aside fun _ => rfl) fun _ =>
      .bind (keeps_closeClient permanent g.client) fun _ => .pure _

theorem Calls.keeps {w w' : World} (calls : Calls w w') (has : w.Has k Q) : w'.Has k Q := by
  induction calls with
  | rest w => exact has
  | call call _ ih => exact ih (call.keeps permanent _ has)

end

theorem Calls.trans {w₁ w₂ w₃ : World} (first : Calls w₁ w₂) (second : Calls w₂ w₃) :
    Calls w₁ w₃ := by
  induction first with
  | rest w => exact second
  | call call _ ih => exact .call call (ih second)

end Action

/-! ### Programs -/

namespace Program

open Telemetry.Action

variable {σ α β : Type}

/-- All that a program does to the world is to call the library. -/
def Calling (x : Program σ α) : Prop := ∀ s, Calls s.1 (x s).2.1

namespace Calling

theorem own (x : Run σ α) : Calling (Run.onSecond x : Program σ α) := fun s => .rest s.1

theorem call {x : Action α} (call : Call x) : Calling (Run.onFirst x : Program σ α) :=
  fun _ => .call call (.rest _)

/-- Whatever only looks at the world. -/
theorem look {x : Action α} (same : ∀ w, (x w).2 = w) : Calling (Run.onFirst x : Program σ α) := by
  intro s
  show Calls s.1 (x s.1).2
  rw [same]
  exact .rest s.1

theorem pure (a : α) : Calling (Pure.pure a : Program σ α) := fun _ => .rest _

theorem unwind (p : Payload) : Calling (Run.unwind p : Program σ α) :=
  fun _ => .rest _

theorem bind {x : Program σ α} {f : α → Program σ β} (hx : Calling x) (hf : ∀ a, Calling (f a)) :
    Calling (x >>= f) := by
  intro s
  have first := hx s
  show Calls s.1 (Run.bind x f s).2.1
  unfold Run.bind
  rcases ran : x s with ⟨r, s'⟩
  rw [ran] at first
  cases r with
  | done a => exact first.trans (hf a s')
  | panicked p => exact first
  | blocked => exact first

theorem attempt {x : Program σ α} (hx : Calling x) : Calling (Run.attempt x) := by
  intro s
  have ended := hx s
  unfold Run.attempt
  rcases ran : x s with ⟨r, s'⟩
  rw [ran] at ended
  cases r <;> exact ended

theorem after {x : Program σ α} {y : Program σ Unit} (hx : Calling x) (hy : Calling y) :
    Calling (Run.after x y) := by
  refine .bind (.attempt hx) fun r => ?_
  cases r with
  | ok a => exact .bind hy fun _ => .pure a
  | error p => exact .bind hy fun _ => .unwind p

theorem whileLocked (h : HubId) {x : Program σ α} (hx : Calling x) : Calling (whileLocked h x) :=
  .bind (.bind (.look (layers_world h)) fun _ => .pure ()) fun _ =>
    .bind (.call (.setLocked h true)) fun _ => .after hx (.call (.setLocked h false))

theorem configureScope (t : Target) {edit : HubId → Program σ α} (code : ∀ h, Calling (edit h)) :
    Calling (configureScope t edit) := by
  refine .bind (.call (.find t)) fun found => ?_
  cases found with
  | none => exact .pure none
  | some h => exact .bind (.whileLocked h (code h)) fun a => .pure (some a)

theorem withScope (t : Target) {edit : HubId → Program σ Unit} (code : ∀ h, Calling (edit h))
    {body : Program σ α} (inside : Calling body) : Calling (withScope t edit body) := by
  refine .bind (.call (.find t)) fun found => ?_
  cases found with
  | none => exact inside
  | some h =>
    refine .bind (.call (.pushScope h)) fun guard => .after ?_ (.call (.dropScope guard))
    exact .bind (.whileLocked h (code h)) fun _ => inside

theorem addBreadcrumbs (t : Target) {make : Program σ (List Breadcrumb)} (code : Calling make) :
    Calling (addBreadcrumbs t make) := by
  refine .bind (.call (.find t)) fun found => ?_
  cases found with
  | none => exact .pure ()
  | some h =>
    refine .whileLocked h (.bind (.look fun _ => rfl) fun w => ?_)
    split
    · split
      · exact .bind code fun crumbs => .call (.editScope h _)
      · exact .pure ()
    · exact .pure ()

theorem runIn (h : HubId) {x : Program σ α} (inside : Calling x) : Calling (runIn h x) :=
  .bind (.call (.switch h)) fun switch => .after inside (.call (.switchBack switch))

theorem onThread {x : Program σ α} (inside : Calling x) : Calling (onThread x) :=
  .bind (.look fun _ => rfl) fun _ => .bind (.call (.editThread _)) fun _ =>
    .bind (.attempt inside) fun _ => .bind (.call (.editThread _)) fun _ => .pure _

theorem catchUnwind (h : HubId) {x : Program σ α} (inside : Calling x) :
    Calling (catchUnwind h x) := by
  refine .bind (.call (.editThread _)) fun _ => .bind (.attempt inside) fun r =>
    .bind (.call (.editThread _)) fun _ => ?_
  cases r with
  | ok a => exact .pure a
  | error p => exact .bind (.call (.report h p)) fun _ => .unwind p

theorem pollTasks (n : Nat) {tasks : List (HubId × List (Program σ Unit))}
    (steps : ∀ t ∈ tasks, ∀ x ∈ t.2, Calling x) : Calling (pollTasks n tasks) := by
  -- by the rounds, and within a round by the tasks that are polled in it
  induction n generalizing tasks with
  | zero => exact .pure 0
  | succ n ih =>
    have polled (l : List (HubId × List (Program σ Unit))) (inside : ∀ t ∈ l, t ∈ tasks) :
        Calling (l.forM fun t => Program.runIn t.1 (t.2.head?.getD (Pure.pure ()))) := by
      induction l with
      | nil => exact .pure ()
      | cons t l ih =>
        refine .bind (.runIn t.1 ?_) fun _ => ih fun t' ht => inside t' (List.mem_cons_of_mem _ ht)
        cases next : t.2.head? with
        | none => exact .pure ()
        | some x => exact steps t (inside t List.mem_cons_self) x (List.mem_of_mem_head? next)
    have left : Calling (Program.pollTasks n
        ((tasks.filter fun t => !t.2.isEmpty).map fun t => (t.1, t.2.tail))) := by
      refine ih fun t ht x hx => ?_
      obtain ⟨t', ht', rfl⟩ := List.mem_map.mp ht
      exact steps t' (List.mem_filter.mp ht').1 x (List.mem_of_mem_tail hx)
    unfold Program.pollTasks
    split
    · exact .pure 0
    · exact .bind (polled tasks fun _ h => h) fun _ => .bind left fun _ => .pure _

theorem raise (ending : Ending α) : Calling (raise ending : Program σ α) := by
  cases ending with
  | returns a => exact .pure a
  | panics p => exact .call (.panic p)
  | panicsAgain p => exact .unwind p

theorem closure (f : σ → Ending α × σ) : Calling (closure f) :=
  .bind (.own _) fun ending => .raise ending

theorem editing (f : Scope × σ → Ending α × Scope × σ) (h : HubId) : Calling (editing f h) := by
  refine .bind (.look fun _ => rfl) fun w => .bind (.own _) fun made => ?_
  exact .bind (.call (.editScope h _)) fun _ => .raise made.1

end Calling

/-- Programs made of nested calls do nothing else to the world. -/
theorem Nested.calling {x : Program σ α} (nested : Nested x) : Calling x := by
  induction nested with
  | pure a => exact .pure a
  | bind _ _ ihx ihf => exact .bind ihx ihf
  | attempt _ ih => exact .attempt ih
  | closure f => exact .closure f
  | withScope t config _ ih => exact .withScope t (fun h => .editing config h) ih
  | withLayer h _ ih =>
    exact .bind (.call (.pushScope h)) fun guard => .after ih (.call (.dropScope guard))
  | configureScope t f => exact .configureScope t fun h => .editing f h
  | addBreadcrumbs t make => exact .addBreadcrumbs t (.closure make)
  | bindClient h client => exact .call (.bindClient h client)
  | capture t o => exact .call (.capture t o)
  | use x => exact .call (.use x)
  | currentHub => exact .call (.resolve .active)

end Program

end Telemetry
