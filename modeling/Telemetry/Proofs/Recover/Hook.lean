import Telemetry.Hub.Scopes
import Telemetry.Hub.Switch
import Telemetry.Proofs.Hub.Closing
import Telemetry.Recover

/-! The stack that is kept for a boundary. The hook keeps it as a panic begins, if it leaves the
panic to a boundary; a boundary takes it for its report; and nothing else that code may call changes
it. -/

namespace Telemetry

/-- What the hook and the boundaries go by, besides the hub in use. -/
structure PanicView where
  stash : Option Stacktrace
  stack : Option Stacktrace
  boundaries : Nat

def World.panicView (w : World) : PanicView := ⟨w.thread.stash, w.stack, w.thread.boundaries⟩

namespace Action

variable {α β : Type} {h : HubId} {w w' : World}

/-! ### Calls that have to do with no panic -/

/-- A call after which panics are treated as before. -/
def Aside (x : Action α) : Prop := ∀ w, (x w).2.panicView = w.panicView

/-- Such a call that does not panic either. -/
structure Quiet (x : Action α) : Prop where
  aside : Aside x
  calm : ∀ w p, (x w).1 ≠ .panicked p

theorem Aside.bind {x : Action α} {f : α → Action β} (hx : Aside x) (hf : ∀ a, Aside (f a)) :
    Aside (x >>= f) := by
  intro w
  have first := hx w
  show (Run.bind x f w).2.panicView = _
  unfold Run.bind
  rcases ran : x w with ⟨r, w'⟩
  rw [ran] at first
  cases r with
  | done a => exact (hf a w').trans first
  | panicked p => exact first
  | blocked => exact first

namespace Quiet

/-- What ends at once with a result. -/
theorem ends {x : Action α} (aside : Aside x) (done : ∀ w, ∃ a, (x w).1 = .done a) : Quiet x where
  aside := aside
  calm w p panicked := by
    obtain ⟨a, result⟩ := done w
    cases result.symm.trans panicked

theorem pure (a : α) : Quiet (Pure.pure a : Action α) := .ends (fun _ => rfl) fun _ => ⟨a, rfl⟩

theorem get : Quiet (Run.get : Action World) := .ends (fun _ => rfl) fun w => ⟨w, rfl⟩

theorem modify {f : World → World} (same : ∀ w, (f w).panicView = w.panicView) :
    Quiet (Run.modify f) := .ends same fun _ => ⟨(), rfl⟩

theorem bind {x : Action α} {f : α → Action β} (hx : Quiet x) (hf : ∀ a, Quiet (f a)) :
    Quiet (x >>= f) where
  aside := hx.aside.bind fun a => (hf a).aside
  calm w p := by
    have first := hx.calm w
    show (Run.bind x f w).1 ≠ _
    unfold Run.bind
    rcases ran : x w with ⟨r, w'⟩
    rw [ran] at first
    cases r with
    | done a => exact (hf a).calm w' p
    | panicked q => exact absurd rfl (first q)
    | blocked => exact nofun

end Quiet

theorem quiet_layers (h : HubId) : Quiet (layers h) where
  aside w := by rw [layers_world]
  calm w p := by
    cases locked : (w.hub h).locked with
    | true => rw [layers_locked locked]; exact nofun
    | false => rw [layers_eq locked]; exact nofun

theorem quiet_top (h : HubId) : Quiet (top h) := .bind (quiet_layers h) fun _ => .pure _

theorem quiet_editLayers (h : HubId) (f : Layers → α × Layers) : Quiet (editLayers h f) :=
  .bind (quiet_layers h) fun _ => .bind (.modify fun _ => rfl) fun _ => .pure _

theorem quiet_tell (ds : List Diagnostic) : Quiet (tell ds) := .modify fun _ => rfl

theorem quiet_thread : Quiet thread := .bind .get fun _ => .pure _

theorem quiet_dropScope (g : ScopeGuard) : Quiet g.drop := by
  refine .bind (quiet_editLayers g.hub _) fun depth => ?_
  split
  · exact quiet_tell _
  · exact .pure _

theorem quiet_switch (h : HubId) : Quiet (Switch.new h) := by
  refine .bind quiet_thread fun thread => ?_
  dsimp only
  split
  · exact .pure _
  · exact .bind (.modify fun _ => rfl) fun _ => .pure _

theorem quiet_switchBack (s : Switch) : Quiet s.drop := by
  obtain ⟨previous⟩ := s
  cases previous with
  | none => exact .pure ()
  | some bound => exact .modify fun _ => rfl

theorem quiet_currentHub : Quiet currentHub := by
  refine .bind quiet_thread fun thread => ?_
  split
  · exact .pure _
  · refine .bind .get fun w => ?_
    split
    · exact .pure _
    · split
      · exact .pure _
      · refine .bind (.bind (quiet_top _) fun top => ?_) fun h => ?_
        · exact .ends (fun _ => rfl) fun w => ⟨w.hubs.length, rfl⟩
        · exact .bind (.modify fun _ => rfl) fun _ => .pure _

theorem quiet_find (t : Target) : Quiet t.find? := by
  cases t with
  | hub h => exact .pure (some h)
  | active =>
    exact .bind quiet_currentHub fun _ => .bind (.bind .get fun _ => .pure _) fun _ => .pure _

/-! ### Captures -/

theorem aside_onClient (c : ClientId) (default : α)
    (f : Instant → Emitter.Pace → Client → Client.Step α) : Aside (onClient c default f) := by
  intro w
  cases found : w.clients[c]? with
  | none => rw [onClient_none found]; rfl
  | some client => rw [onClient_some found]; rfl

theorem aside_process (c : ClientId) (client : Client) (scope : Option Scope) (hint : EventHint)
    (e : Event) (stack : Option Stacktrace) (traces : Traces) :
    Aside (client.process (passage c client scope hint) stack traces scope e) := by
  have after (r : Except EventDrop Event) : Aside (afterPrepare c client r) := by
    cases r with
    | error d => exact (Quiet.pure _).aside
    | ok e =>
      refine .bind (Quiet.bind .get fun _ => .pure _).aside fun now => ?_
      split
      · exact (Quiet.pure _).aside
      · exact .bind (aside_onClient c () _) fun _ => (Quiet.pure _).aside
  intro w
  cases current : client.current? with
  | none => rw [process_gone current]; rfl
  | some p =>
    obtain ⟨r, fresh, -, processed⟩ :=
      process_eq (by rw [current]; rfl) c scope hint e stack traces w
    rw [processed]
    exact after r _

theorem aside_captureIn (h : HubId) (hint : EventHint) (e : Event) :
    Aside (captureIn h hint e) := by
  refine .bind (quiet_top h).aside fun top => ?_
  cases top.client with
  | none => exact (Quiet.pure _).aside
  | some c =>
    refine .bind (.bind (aside_onClient c () _) fun _ => .bind ?_ fun client => ?_) fun id => ?_
    · exact (Quiet.bind .get fun _ => .pure _).aside
    · cases client with
      | none => exact (Quiet.pure _).aside
      | some client =>
        refine .bind Quiet.get.aside fun w => .bind ?_ fun verdict => ?_
        · exact aside_process c client _ hint e w.stack w.traces
        · exact .bind (quiet_tell _).aside fun _ => (Quiet.pure _).aside
    · cases id.isNil with
      | true => exact (Quiet.pure _).aside
      | false => exact .bind (fun _ => rfl) fun _ => (Quiet.pure _).aside

theorem aside_flush (h : HubId) : Aside (flush (.hub h)) := by
  change Aside (top h >>= _)
  refine .bind (quiet_top h).aside fun top => ?_
  cases top.client with
  | some c => exact aside_onClient c true _
  | none => exact (Quiet.pure _).aside

/-! ### The hook -/

end Action

/-- The extractors of the integration for panics that the client of a hub has. -/
def World.extractors? (w : World) (h : HubId) : Option (List (String → Event → Option Event)) :=
  ((w.hub h).layers.top.client.bind fun c => w.clients[c]?).bind Client.panicExtractors?

/-- Whether the hook leaves a panic to the boundary around it, for which it keeps the stack: the
thread is in a boundary, and the hub in use is active and its client has the integration for panics.
-/
def World.defers (w : World) : Bool :=
  w.hooked && decide (0 < w.thread.boundaries) &&
    match Target.active.find? w with
    | (.done (some h), w) => (w.extractors? h).isSome
    | _ => false

namespace Action

variable {α : Type} {h : HubId} {w w' : World}

/-- What the hook does in a hub whose client has the integration for panics. -/
def defer (h : HubId) (p : Payload) (extractors : List (String → Event → Option Event)) :
    Action Unit := do
  let stack := (← Run.get).stack
  if ← isInsideBoundary then
    debug "[PanicIntegration] Panic inside recover boundary, deferring"
    stashStack stack
  else
    debug ("[PanicIntegration] Panic detected: " ++ p.message)
    let blank ← blankEvent
    let extracted := extractors.findSome? fun f => f p.message blank
    let event := extracted.getD (Backtrace.panicEvent blank p.message stack)
    let id ← captureIn h (.ofPanic p.message) event
    debug ("[PanicIntegration] Captured panic as " ++ id.hyphenated ++ ", flushing")
    discard <| flush (.hub h)

/-- Nobody writes to a hub that is found active. -/
theorem find_unlocked (found : Target.active.find? w = (.done (some h), w')) :
    (w'.hub h).locked = false := by
  have looked (i : HubId) (v : World) : isActive i v = (.done (!(v.hub i).locked &&
      (v.hub i).layers.top.client.any v.isEnabled), v) := rfl
  change (currentHub >>= fun i => isActive i >>= fun active =>
    pure (if active then some i else none)) w = _ at found
  rcases used : currentHub w with ⟨r, v⟩
  cases r with
  | done i =>
    rw [bind_done used, bind_done (looked i v)] at found
    split at found
    · next active =>
      cases found
      simpa using (Bool.and_eq_true_iff.mp active).1
    · cases found
  | panicked p => rw [bind_panicked used] at found; cases found
  | blocked => rw [bind_blocked used] at found; cases found

theorem noticePanic_found (found : Target.active.find? w = (.done (some h), w')) (p : Payload) :
    noticePanic p w = (match w'.extractors? h with
      | some extractors => defer h p extractors
      | none => pure ()) w' := by
  have asked : (w'.hub h).layers.top.client.bindM client? w' =
      (.done ((w'.hub h).layers.top.client.bind fun c => w'.clients[c]?), w') := by
    cases (w'.hub h).layers.top.client <;> rfl
  refine (bind_done found).trans ((bind_done (top_eq (find_unlocked found))).trans ?_)
  refine (bind_done asked).trans ?_
  unfold World.extractors?
  cases ((w'.hub h).layers.top.client.bind fun c => w'.clients[c]?).bind Client.panicExtractors? <;>
    rfl

theorem stash_defer (h : HubId) (p : Payload) (extractors : List (String → Event → Option Event))
    (w : World) : (defer h p extractors w).2.thread.stash =
      if 0 < w.thread.boundaries then w.stack else w.thread.stash := by
  have deep : isInsideBoundary w = (.done (decide (0 < w.thread.boundaries)), w) := rfl
  have got : (Run.get : Action World) w = (.done w, w) := rfl
  unfold defer
  rw [bind_done got, bind_done deep]
  by_cases inside : 0 < w.thread.boundaries
  · rw [if_pos (decide_eq_true inside), if_pos inside]
    rfl
  · rw [if_neg (by simpa using inside), if_neg inside]
    -- a report at once has nothing to do with the stack that is kept
    refine congrArg PanicView.stash (Aside.bind (quiet_tell _).aside (fun _ => ?_) w)
    refine .bind (fun _ => rfl) fun blank => .bind (aside_captureIn h _ _) fun id => ?_
    exact .bind (quiet_tell _).aside fun _ => .bind (aside_flush h) fun _ => (Quiet.pure _).aside

theorem stash_noticePanic (p : Payload) (hooked : w.hooked = true) :
    (noticePanic p w).2.thread.stash = if w.defers then w.stack else w.thread.stash := by
  have view := (quiet_find .active).aside w
  unfold World.defers
  rw [hooked, Bool.true_and]
  rcases found : Target.active.find? w with ⟨r, v⟩
  rw [found] at view
  obtain ⟨stash, stack, boundaries⟩ := PanicView.mk.inj view
  dsimp only at stash stack boundaries
  cases r with
  | done found? =>
    cases found? with
    | none =>
      have ran : noticePanic p w = (.done (), v) := bind_done found
      rw [Bool.and_false, ran]
      exact stash
    | some h =>
      rw [noticePanic_found found]
      cases known : v.extractors? h with
      | none =>
        simp only [known, Option.isSome_none, Bool.and_false]
        exact stash
      | some extractors =>
        simp only [known, Option.isSome_some, Bool.and_true, decide_eq_true_eq]
        rw [stash_defer, stash, stack, boundaries]
  | panicked q =>
    have ran : noticePanic p w = (.panicked q, v) := bind_panicked found
    rw [Bool.and_false, ran]
    exact stash
  | blocked =>
    have ran : noticePanic p w = (.blocked, v) := bind_blocked found
    rw [Bool.and_false, ran]
    exact stash

theorem panic_eq (p : Payload) (w : World) : (panic p : Action α) w =
    (if w.hooked then noticePanic p >>= fun _ => Run.unwind p else Run.unwind p) w := rfl

/-- What panics in the end leaves the state that the rest of it came to. -/
theorem bind_unwind {σ : Type} (x : Run σ Unit) (p : Payload) (s : σ) :
    ((x >>= fun _ => (Run.unwind p : Run σ α)) s).2 = (x s).2 ∧
      ∀ a, ((x >>= fun _ => (Run.unwind p : Run σ α)) s).1 ≠ .done a := by
  have step : (x >>= fun _ => (Run.unwind p : Run σ α)) s = Run.bind x _ s := rfl
  rw [step]
  unfold Run.bind
  rcases x s with ⟨r, s'⟩
  cases r <;> exact ⟨rfl, nofun⟩

/-- A new panic changes the stack that is kept only if the hook leaves the panic to a boundary, and
then to the stack of the moment. -/
theorem stash_panic (p : Payload) (w : World) :
    ((panic p : Action α) w).2.thread.stash = (if w.defers then w.stack else w.thread.stash) ∧
      ∀ a, ((panic p : Action α) w).1 ≠ .done a := by
  rw [panic_eq]
  cases hooked : w.hooked with
  | false =>
    rw [World.defers, hooked]
    exact ⟨rfl, nofun⟩
  | true =>
    obtain ⟨world, panics⟩ := bind_unwind (α := α) (noticePanic p) p w
    rw [if_pos rfl, world]
    exact ⟨stash_noticePanic p hooked, panics⟩

/-! ### Reports -/

/-- What a boundary does besides a report. -/
def settle (h : HubId) : Action Unit := do
  if !(← isInsideBoundary) then
    editThread fun t => { t with reported := none }
    discard <| flush (.hub h)

theorem aside_settle (h : HubId) : Aside (settle h) := by
  refine .bind (Quiet.bind quiet_thread fun _ => .pure _).aside fun inside => ?_
  split
  · exact .bind (fun _ => rfl) fun _ => .bind (aside_flush h) fun _ => (Quiet.pure _).aside
  · exact (Quiet.pure _).aside

theorem thread_eq (w : World) : thread w = (.done w.thread, w) := rfl

/-- The report of a panic has the stack that is kept, and none is kept any more. -/
theorem reportAtBoundary_new {p : Payload} (new : w.thread.reported ≠ some p.key) (h : HubId) :
    reportAtBoundary h p w =
      (captureIn h (.ofPanic p.message)
          (Backtrace.panicEvent (Event.fresh w.fresh).1 p.message w.thread.stash) >>= fun id =>
        debug ("[Hub] Captured panic at recover boundary: " ++ id.hyphenated) >>= fun _ => settle h)
      { w with
        fresh := (Event.fresh w.fresh).2
        thread := { w.thread with reported := some p.key, stash := none } } := by
  unfold reportAtBoundary
  rw [bind_done (thread_eq w), if_pos new]
  rfl

theorem reportAtBoundary_old {p : Payload} (old : w.thread.reported = some p.key) (h : HubId) :
    reportAtBoundary h p w = settle h w := by
  unfold reportAtBoundary
  rw [bind_done (thread_eq w), if_neg (not_not_intro old)]
  rfl

theorem stash_reportAtBoundary (h : HubId) (p : Payload) (w : World) :
    (reportAtBoundary h p w).2.thread.stash =
      if w.thread.reported ≠ some p.key then none else w.thread.stash := by
  by_cases old : w.thread.reported = some p.key
  · rw [reportAtBoundary_old old, if_neg (not_not_intro old)]
    exact congrArg PanicView.stash (aside_settle h w)
  · rw [reportAtBoundary_new old, if_pos old]
    refine congrArg PanicView.stash (Aside.bind (aside_captureIn h _ _) (fun id => ?_) _)
    exact .bind (quiet_tell _).aside fun _ => aside_settle h

end Action

end Telemetry
