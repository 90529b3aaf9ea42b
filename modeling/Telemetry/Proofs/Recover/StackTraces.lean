import Telemetry.Proofs.Hub.Initialized
import Telemetry.Proofs.Recover.History
import Telemetry.Proofs.Recover.Hook

/-! Whose stack a report at a boundary has. Programs write down what becomes of their panics, and
the hook keeps a stack for some of these only. So a report has the stack that waits, which is that
of another panic if that one was stopped by code that is no boundary. -/

namespace Telemetry

/-! ### Stopping panics -/

namespace Run

variable {τ α β : Type} {x : Run τ α} {f : Except Payload α → Run τ β} {s s' : τ}

theorem attempt_done {a : α} (ran : x s = (.done a, s')) : (attempt x >>= f) s = f (.ok a) s' := by
  show Run.bind (attempt x) f s = _
  rw [Run.bind, attempt, ran]

theorem attempt_panicked {p : Payload} (ran : x s = (.panicked p, s')) :
    (attempt x >>= f) s = f (.error p) s' := by
  show Run.bind (attempt x) f s = _
  rw [Run.bind, attempt, ran]

theorem attempt_blocked (ran : x s = (.blocked, s')) : (attempt x >>= f) s = (.blocked, s') := by
  show Run.bind (attempt x) f s = _
  rw [Run.bind, attempt, ran]

end Run

/-! ### Programs with a chronicle -/

/-- What the hook keeps for a panic that begins now, if anything. -/
def World.kept? (w : World) : Option (Option Stacktrace) :=
  if w.defers then some w.stack else none

namespace Program

open Telemetry.Action

variable {α β : Type}

/-- Writes into the chronicle, which is all the same to the world. -/
def write (f : Chronicle → Chronicle) : Program Chronicle Unit := Run.onSecond (Run.modify f)

/-- Panics, with the stack of the moment. -/
def panicAnew (stack : Option Stacktrace) (p : Payload) : Program Chronicle α := do
  (Run.modify fun w => { w with stack } : Action Unit)
  let w ← (Run.get : Action World)
  write (.raise w.kept?)
  (Action.panic p : Action α)

/-- Panics in a way that no hook notices. -/
def panicUnnoticed (p : Payload) : Program Chronicle α := do
  write (.raise none)
  (panicAgain p : Action α)

/-- Has a panic go on that was stopped, the `i`-th of them. -/
def rethrow (i : Nat) : Program Chronicle Unit := do
  let c ← Run.onSecond Run.get
  match c.caught[i]? with
  | none => return ()
  | some (n, p) =>
    write (.resume n)
    (panicAgain p : Action Unit)

/-- Calls the library. A panic in it is `requestPanic`, which is not shown to the hook. -/
def callLibrary (x : Action α) : Program Chronicle α := do
  match ← Run.attempt (Run.onFirst x : Program Chronicle α) with
  | .ok a => return a
  | .error p =>
    write (.raise none)
    Run.unwind p

/-- Stops a panic outside of the library. -/
def stopPanic (x : Program Chronicle α) : Program Chronicle (Except Payload α) := do
  match ← Run.attempt x with
  | .ok a => return .ok a
  | .error p =>
    write (.stop p)
    return .error p

/-- Writes down that a panic is about to leave a boundary. -/
def leaving (x : Program Chronicle α) : Program Chronicle α := do
  match ← Run.attempt x with
  | .ok a => return a
  | .error p =>
    let t ← (thread : Action ThreadState)
    write (.leave t p)
    Run.unwind p

/-- Runs code in a boundary. If a transport panics over the report, that panic goes on in the place
of the one that is reported, and under its name. -/
def boundary (h : HubId) (x : Program Chronicle α) : Program Chronicle α :=
  catchUnwind h (leaving x)

/-- Programs that write down everything that becomes of their panics. -/
inductive Watched : {α : Type} → Program Chronicle α → Prop
  | pure {α : Type} (a : α) : Watched (Pure.pure a : Program Chronicle α)
  | bind {α β : Type} {x : Program Chronicle α} {f : α → Program Chronicle β} :
      Watched x → (∀ a, Watched (f a)) → Watched (x >>= f)
  | panicAnew {α : Type} (stack : Option Stacktrace) (p : Payload) :
      Watched (panicAnew stack p : Program Chronicle α)
  | panicUnnoticed {α : Type} (p : Payload) : Watched (panicUnnoticed p : Program Chronicle α)
  | rethrow (i : Nat) : Watched (rethrow i)
  | callLibrary {α : Type} {x : Action α} (aside : Aside x) : Watched (callLibrary x)
  | stopPanic {α : Type} {x : Program Chronicle α} : Watched x → Watched (stopPanic x)
  | boundary {α : Type} (h : HubId) {x : Program Chronicle α} : Watched x → Watched (boundary h x)
  | runIn {α : Type} (h : HubId) {x : Program Chronicle α} : Watched x → Watched (runIn h x)
  | configureScope {α : Type} (t : Target) {edit : HubId → Program Chronicle α} :
      (∀ h, Watched (edit h)) → Watched (configureScope t edit)
  | withScope {α : Type} (t : Target) {edit : HubId → Program Chronicle Unit}
      {body : Program Chronicle α} :
      (∀ h, Watched (edit h)) → Watched body → Watched (withScope t edit body)
  | addBreadcrumbs (t : Target) {make : Program Chronicle (List Breadcrumb)} :
      Watched make → Watched (addBreadcrumbs t make)

/-! ### Boundaries -/

section

variable {σ : Type} {h : HubId} {x : Program σ α} {y : Program Chronicle α} {w w' : World}
  {own own' : σ} {c c' : Chronicle} {p : Payload}

/-- A world in which the thread is in so many boundaries. -/
def within (n : Nat) (w : World) : World := { w with thread := { w.thread with boundaries := n } }

theorem catchUnwind_done {a : α}
    (ran : x (within (w.thread.boundaries + 1) w, own) = (.done a, w', own')) :
    catchUnwind h x (w, own) = (.done a, within (w'.thread.boundaries - 1) w', own') :=
  Run.attempt_done ran

theorem catchUnwind_blocked
    (ran : x (within (w.thread.boundaries + 1) w, own) = (.blocked, w', own')) :
    catchUnwind h x (w, own) = (.blocked, w', own') :=
  Run.attempt_blocked ran

theorem catchUnwind_panicked
    (ran : x (within (w.thread.boundaries + 1) w, own) = (.panicked p, w', own')) :
    catchUnwind h x (w, own) =
      (Run.onFirst (reportAtBoundary h p) >>= fun _ => Run.unwind p)
        (within (w'.thread.boundaries - 1) w', own') :=
  Run.attempt_panicked ran

theorem leaving_done {a : α} (ran : y (w, c) = (.done a, w', c')) :
    leaving y (w, c) = (.done a, w', c') :=
  Run.attempt_done ran

theorem leaving_blocked (ran : y (w, c) = (.blocked, w', c')) :
    leaving y (w, c) = (.blocked, w', c') :=
  Run.attempt_blocked ran

theorem leaving_panicked (ran : y (w, c) = (.panicked p, w', c')) :
    leaving y (w, c) = (.panicked p, w', c'.leave w'.thread p) :=
  Run.attempt_panicked ran

end

/-- How the chronicle stands when a program has ended in some way. -/
def Ends : Outcome α × World × Chronicle → Prop
  | (.done _, w, c) => c.AtRest w.thread.stash
  | (.panicked _, w, c) => c.InFlight w.thread.stash
  | (.blocked, _, c) => Explained c.past

theorem Ends.explained {r : Outcome α × World × Chronicle} (ends : Ends r) :
    Explained r.2.2.past := by
  obtain ⟨r, w, c⟩ := r
  cases r with
  | done a => exact Chronicle.AtRest.toSound ends |>.explained
  | panicked p => exact Chronicle.InFlight.toSound ends |>.explained
  | blocked => exact ends

/-- What does not end with a result leaves a panic on its way, or nothing more happens. -/
theorem Ends.of_inFlight {r : Outcome α × World × Chronicle} (panics : ∀ a, r.1 ≠ .done a)
    (flight : r.2.2.InFlight r.2.1.thread.stash) : Ends r := by
  obtain ⟨r, w, c⟩ := r
  cases r with
  | done a => exact absurd rfl (panics a)
  | panicked p => exact flight
  | blocked => exact flight.explained

/-- What panics in the end leaves a panic on its way if the rest of it does. -/
theorem Ends.unwind {y : Program Chronicle Unit} {s : World × Chronicle}
    (flight : (y s).2.2.InFlight (y s).2.1.thread.stash) (p : Payload) :
    Ends ((y >>= fun _ => (Run.unwind p : Program Chronicle α)) s) := by
  obtain ⟨state, panics⟩ := bind_unwind (α := α) y p s
  exact .of_inFlight panics (by rw [state]; exact flight)

/-- A program after which the chronicle stands right. -/
def Told (x : Program Chronicle α) : Prop :=
  ∀ w (c : Chronicle), c.AtRest w.thread.stash → Ends (x (w, c))

namespace Told

theorem pure (a : α) : Told (Pure.pure a : Program Chronicle α) := fun _ _ rest => rest

theorem bind {x : Program Chronicle α} {f : α → Program Chronicle β} (hx : Told x)
    (hf : ∀ a, Told (f a)) : Told (x >>= f) := by
  intro w c rest
  have first := hx w c rest
  show Ends (Run.bind x f (w, c))
  unfold Run.bind
  rcases ran : x (w, c) with ⟨r, w', c'⟩
  rw [ran] at first
  cases r with
  | done a => exact hf a w' c' first
  | panicked p => exact first
  | blocked => exact first

theorem quiet {x : Action α} (hx : Quiet x) : Told (Run.onFirst x : Program Chronicle α) := by
  intro w c rest
  have same : (x w).2.thread.stash = w.thread.stash := congrArg PanicView.stash (hx.aside w)
  have calm := hx.calm w
  show Ends ((x w).1, (x w).2, c)
  rcases ran : x w with ⟨r, w'⟩
  rw [ran] at same calm
  cases r with
  | done a =>
    rw [← same] at rest
    exact rest
  | panicked p => exact absurd rfl (calm p)
  | blocked => exact rest.explained

/-- Stopping what panics, and going on in either case. -/
theorem attempt {x : Program Chronicle α} {f : Except Payload α → Program Chronicle β} (hx : Told x)
    (hf : ∀ a, Told (f (.ok a)))
    (flies : ∀ p w (c : Chronicle), c.InFlight w.thread.stash → Ends (f (.error p) (w, c))) :
    Told (Run.attempt x >>= f) := by
  intro w c rest
  have first := hx w c rest
  rcases ran : x (w, c) with ⟨r, w', c'⟩
  rw [ran] at first
  cases r with
  | done a =>
    rw [Run.attempt_done ran]
    exact hf a w' c' first
  | panicked p =>
    rw [Run.attempt_panicked ran]
    exact flies p w' c' first
  | blocked =>
    rw [Run.attempt_blocked ran]
    exact first

/-- What comes after a program in any case keeps its panic on its way. -/
theorem after {x : Program Chronicle α} {y : Action Unit} (hx : Told x) (hy : Quiet y) :
    Told (Run.after x (Run.onFirst y)) := by
  refine .attempt hx (fun a => .bind (.quiet hy) fun _ => .pure a) fun p w c flight => ?_
  have same : (y w).2.thread.stash = w.thread.stash := congrArg PanicView.stash (hy.aside w)
  refine Ends.unwind ?_ p
  show c.InFlight (y w).2.thread.stash
  rw [same]
  exact flight

theorem panicAnew (stack : Option Stacktrace) (p : Payload) :
    Told (panicAnew stack p : Program Chronicle α) := by
  intro w c rest
  let now : World := { w with stack }
  obtain ⟨stash, panics⟩ := stash_panic (α := α) p now
  have kept : now.kept?.getD w.thread.stash = if now.defers then now.stack else w.thread.stash := by
    unfold World.kept?
    split <;> rfl
  refine Ends.of_inFlight panics ?_
  show (c.raise now.kept?).InFlight ((Action.panic p : Action α) now).2.thread.stash
  rw [stash, ← kept]
  exact rest.raise now.kept?

theorem panicUnnoticed (p : Payload) : Told (panicUnnoticed p : Program Chronicle α) :=
  fun _ _ rest => rest.raise none

theorem rethrow (i : Nat) : Told (rethrow i) := by
  intro w c rest
  show Ends ((match c.caught[i]? with
    | none => _
    | some (n, p) => _ : Program Chronicle Unit) (w, c))
  cases there : c.caught[i]? with
  | none => exact rest
  | some caught => exact rest.resume (rest.caught caught (List.mem_of_getElem? there))

theorem callLibrary {x : Action α} (aside : Aside x) : Told (callLibrary x) := by
  intro w c rest
  have same : (x w).2.thread.stash = w.thread.stash := congrArg PanicView.stash (aside w)
  have ran : (Run.onFirst x : Program Chronicle α) (w, c) = ((x w).1, (x w).2, c) := rfl
  rw [← same] at rest
  unfold Program.callLibrary
  cases ended : (x w).1 with
  | done a =>
    rw [Run.attempt_done (ran.trans (by rw [ended]))]
    exact rest
  | panicked p =>
    rw [Run.attempt_panicked (ran.trans (by rw [ended]))]
    exact rest.raise none
  | blocked =>
    rw [Run.attempt_blocked (ran.trans (by rw [ended]))]
    exact rest.explained

theorem stopPanic {x : Program Chronicle α} (hx : Told x) : Told (stopPanic x) :=
  .attempt hx (fun a => .pure (Except.ok a)) fun p _ _ flight => flight.stop p

theorem whileLocked (h : HubId) {x : Program Chronicle α} (hx : Told x) :
    Told (whileLocked h x) :=
  .bind (.bind (.quiet (quiet_layers h)) fun _ => .pure ()) fun _ =>
    .bind (.quiet (.modify fun _ => rfl)) fun _ => .after hx (.modify fun _ => rfl)

theorem configureScope (t : Target) {edit : HubId → Program Chronicle α}
    (code : ∀ h, Told (edit h)) : Told (configureScope t edit) := by
  refine .bind (.quiet (quiet_find t)) fun found => ?_
  cases found with
  | none => exact .pure none
  | some h => exact .bind (.whileLocked h (code h)) fun a => .pure (some a)

theorem withScope (t : Target) {edit : HubId → Program Chronicle Unit}
    (code : ∀ h, Told (edit h)) {body : Program Chronicle α} (inside : Told body) :
    Told (withScope t edit body) := by
  refine .bind (.quiet (quiet_find t)) fun found => ?_
  cases found with
  | none => exact inside
  | some h =>
    have push : Quiet (pushScope h) := quiet_editLayers h _
    refine .bind (.quiet push) fun guard => .after ?_ (quiet_dropScope guard)
    exact .bind (.whileLocked h (code h)) fun _ => inside

theorem addBreadcrumbs (t : Target) {make : Program Chronicle (List Breadcrumb)}
    (code : Told make) : Told (addBreadcrumbs t make) := by
  refine .bind (.quiet (quiet_find t)) fun found => ?_
  cases found with
  | none => exact .pure ()
  | some h =>
    refine .whileLocked h (.bind (.quiet .get) fun w => ?_)
    split
    · split
      · exact .bind code fun crumbs => .quiet (.modify fun _ => rfl)
      · exact .pure ()
    · exact .pure ()

theorem runIn (h : HubId) {x : Program Chronicle α} (inside : Told x) : Told (runIn h x) :=
  .bind (.quiet (quiet_switch h)) fun switch => .after inside (quiet_switchBack switch)

theorem boundary (h : HubId) {x : Program Chronicle α} (inside : Told x) :
    Told (boundary h x) := by
  intro w c rest
  have ends := inside (within (w.thread.boundaries + 1) w) c rest
  rcases ran : x (within (w.thread.boundaries + 1) w, c) with ⟨r, w', c'⟩
  rw [ran] at ends
  unfold Program.boundary
  cases r with
  | done a =>
    rw [catchUnwind_done (leaving_done ran)]
    exact ends
  | blocked =>
    rw [catchUnwind_blocked (leaving_blocked ran)]
    exact ends
  | panicked p =>
    rw [catchUnwind_panicked (leaving_panicked ran)]
    refine Ends.unwind ?_ p
    -- between what is written down and the report, only the number of boundaries changes
    let outside := within (w'.thread.boundaries - 1) w'
    show (c'.leave w'.thread p).InFlight (reportAtBoundary h p outside).2.thread.stash
    rw [stash_reportAtBoundary]
    exact Chronicle.InFlight.leave ends p

end Told

theorem Watched.told {x : Program Chronicle α} (watched : Watched x) : Told x := by
  induction watched with
  | pure a => exact .pure a
  | bind _ _ ihx ihf => exact .bind ihx ihf
  | panicAnew stack p => exact .panicAnew stack p
  | panicUnnoticed p => exact .panicUnnoticed p
  | rethrow i => exact .rethrow i
  | callLibrary aside => exact .callLibrary aside
  | stopPanic _ ih => exact .stopPanic ih
  | boundary h _ ih => exact .boundary h ih
  | runIn h _ ih => exact .runIn h ih
  | configureScope t _ ih => exact .configureScope t ih
  | withScope t _ _ ihEdit ihBody => exact .withScope t ihEdit ihBody
  | addBreadcrumbs t _ ih => exact .addBreadcrumbs t ih

/-- What is reported is a panic that began. Its report has the stack that waits, if one does, which
is its own unless the one of another panic waits; and then the other panic was stopped by code that
is no boundary, and the reported one began without notice of the hook or was stopped too, and went
on. -/
theorem reported_stack {x : Program Chronicle α} (watched : Watched x) {w : World}
    (fresh : w.thread.stash = none) {k n : Nat} {stack : Option Stacktrace}
    (reported : (x (w, .empty)).2.2.past[k]? = some (.reported n stack)) :
    let past := (x (w, .empty)).2.2.past.take k
    Began past n ∧ (∀ s, stack = some s ↔ ∃ m, Waits past m (some s)) ∧
      ((∀ s, stack = some s → Waits past n (some s)) ↔
        ¬ ∃ m s, m ≠ n ∧ Waits past m (some s)) ∧
      ∀ m s, Waits past m s → m ≠ n →
        .stopped m ∈ past ∧ (past[n]? = some (.raised none) ∨ .resumed n ∈ past) := by
  intro past
  have rest : Chronicle.empty.AtRest w.thread.stash := fresh ▸ Chronicle.atRest_empty
  have accounted : Accounted past n stack :=
    (watched.told w .empty rest).explained k n stack reported
  exact ⟨accounted.began, accounted.waiting, accounted.own_iff, accounted.other⟩

/-! ### A stack that is left over -/

/-- A hub in which the hook leaves panics to boundaries, seen from a thread in it. -/
def guarded : World :=
  let c := Client.plain (Client.logging (some (.collecting fun _ => false)))
  { World.single { c with integrations := [panicIntegration []] } Client.asleep with
    hooked := true
    thread := { ThreadState.new with bound := some 0 } }

/-- A panic is stopped, and then another one leaves an edit of the hub's scope. -/
def stopThenPanic : Program Chronicle Unit := do
  discard <| stopPanic (panicAnew (some ⟨[]⟩) ⟨1, .text "first"⟩ : Program Chronicle Unit)
  discard <| configureScope (.hub 0) fun _ =>
    (panicAnew (some ⟨[default]⟩) ⟨2, .text "locked"⟩ : Program Chronicle Unit)

theorem watched_stopThenPanic : Watched stopThenPanic := by
  have drop {β : Type} {y : Program Chronicle β} (hy : Watched y) : Watched (discard y) :=
    .bind hy fun _ => .pure ()
  refine .bind (drop (.stopPanic (.panicAnew _ _))) fun _ => drop ?_
  exact .configureScope _ fun _ => .panicAnew _ _

theorem boundary_past {h : HubId} {y : Program Chronicle α} {w w' : World} {c c' : Chronicle}
    {p : Payload} (ran : y (within (w.thread.boundaries + 1) w, c) = (.panicked p, w', c')) :
    (boundary h y (w, c)).2.2.past = (c'.leave w'.thread p).past := by
  unfold boundary
  rw [catchUnwind_panicked (leaving_panicked ran), (bind_unwind _ _ _).1]
  rfl

theorem past_stopThenPanic : (boundary 0 stopThenPanic (guarded, .empty)).2.2.past =
    [.raised (some (some ⟨[]⟩)), .stopped 0, .raised none, .reported 2 (some ⟨[]⟩)] := by
  obtain ⟨w', c', ran, past⟩ : ∃ w' c',
      stopThenPanic (within 1 guarded, .empty) = (.panicked ⟨2, .text "locked"⟩, w', c') ∧
        (c'.leave w'.thread ⟨2, .text "locked"⟩).past =
          [.raised (some (some ⟨[]⟩)), .stopped 0, .raised none, .reported 2 (some ⟨[]⟩)] :=
    ⟨_, _, rfl, rfl⟩
  exact (boundary_past ran).trans past

/-- The second panic is reported with a stack, so one waits; and as the hook kept none for it, that
is the one of a panic that was stopped. -/
theorem reported_stack_second :
    let past := (boundary 0 stopThenPanic (guarded, .empty)).2.2.past
    Watched (boundary 0 stopThenPanic) ∧ guarded.thread.stash = none ∧
      past[3]? = some (.reported 2 (some ⟨[]⟩)) ∧ Began (past.take 3) 2 ∧
      ∃ m, m ≠ 2 ∧ Waits (past.take 3) m (some ⟨[]⟩) ∧ .stopped m ∈ past.take 3 ∧
        ((past.take 3)[2]? = some (.raised none) ∨ .resumed 2 ∈ past.take 3) := by
  intro past
  have watched : Watched (boundary 0 stopThenPanic) := .boundary 0 watched_stopThenPanic
  have reported : past[3]? = some (.reported 2 (some ⟨[]⟩)) := by
    rw [show past = _ from past_stopThenPanic]
    rfl
  obtain ⟨began, waiting, -, other⟩ := reported_stack watched rfl reported
  obtain ⟨m, waits⟩ := (waiting ⟨[]⟩).mp rfl
  have another : m ≠ 2 := by
    rintro rfl
    have kept := waits.1
    rw [past_stopThenPanic] at kept
    cases kept
  exact ⟨watched, rfl, reported, began, m, another, waits, other m _ waits another⟩

/-- A panic that the hook does not notice, as the hub's layers are being edited, is reported with
the stack of one that was stopped before. The hook kept none for it. -/
theorem reported_stack_of_another :
    ¬ ∀ x : Program Chronicle Unit, Watched x → ∀ w : World, w.thread.stash = none →
      ∀ (k n : Nat) (s : Stacktrace),
        (x (w, .empty)).2.2.past[k]? = some (.reported n (some s)) →
          (x (w, .empty)).2.2.past[n]? = some (.raised (some (some s))) := by
  intro law
  have watched := Watched.boundary 0 watched_stopThenPanic
  have own := law (boundary 0 stopThenPanic) watched guarded rfl 3 2 ⟨[]⟩
  rw [past_stopThenPanic] at own
  cases own rfl

end Program

end Telemetry
