import Telemetry.Hub.Scopes
import Telemetry.Proofs.Hub.Contract

/-! Layers that are put on a hub for a while. Code may do there what it likes, use the hub, put more
layers on it and panic at any point: in the end every layer is what it was. -/

namespace Telemetry

/-- How the code of a closure ends. -/
inductive Ending (α : Type) where
  | returns (a : α)
  | panics (p : Payload)
  /-- Panics with something that was caught before. -/
  | panicsAgain (p : Payload)

namespace Program

open Telemetry.Action

variable {σ α : Type}

def raise : Ending α → Program σ α
  | .returns a => pure a
  | .panics p => Run.onFirst (Action.panic p)
  | .panicsAgain p => Run.onFirst (Action.panicAgain p)

/-- Code that has only the program's own state to do with. It may end anywhere in its work: `f` says
what is done by then. -/
def closure (f : σ → Ending α × σ) : Program σ α := do
  raise (← Run.onSecond (Run.modifyGet f))

/-- Code that is given the top scope of a hub to edit. -/
def editing (f : Scope × σ → Ending α × Scope × σ) (h : HubId) : Program σ α := do
  let w ← (Run.get : Action World)
  let (ending, scope) ← Run.onSecond (Run.modifyGet fun s =>
    let (ending, scope, s) := f ((w.hub h).layers.top.scope, s)
    ((ending, scope), s))
  (editScope h fun _ => scope : Action Unit)
  raise ending

/-- Runs code as long as there is a guard for a layer. -/
def withLayer (h : HubId) (x : Program σ α) : Program σ α := do
  let guard ← (pushScope h : Action ScopeGuard)
  Run.after x (guard.drop : Action Unit)

/-- Code that is made of calls nested in each other. Guards of layers go in the reverse order of
their coming, so each is there for as long as some code runs. -/
inductive Nested {σ : Type} : {α : Type} → Program σ α → Prop
  | pure {α : Type} (a : α) : Nested (pure a)
  | bind {α β : Type} {x : Program σ α} {f : α → Program σ β} :
    Nested x → (∀ a, Nested (f a)) → Nested (x >>= f)
  | attempt {α : Type} {x : Program σ α} : Nested x → Nested (Run.attempt x)
  | closure {α : Type} (f : σ → Ending α × σ) : Nested (closure f)
  | withScope {α : Type} (t : Target) (config : Scope × σ → Ending Unit × Scope × σ)
    {x : Program σ α} : Nested x → Nested (withScope t (editing config) x)
  | withLayer {α : Type} (h : HubId) {x : Program σ α} : Nested x → Nested (withLayer h x)
  | configureScope {α : Type} (t : Target) (f : Scope × σ → Ending α × Scope × σ) :
    Nested (configureScope t (editing f))
  | addBreadcrumbs (t : Target) (make : σ → Ending (List Breadcrumb) × σ) :
    Nested (addBreadcrumbs t (Program.closure make))
  | bindClient (h : HubId) (client : Option ClientId) :
    Nested (Run.onFirst (Action.bindClient h client))
  | capture (t : Target) (o : Occasion) : Nested (Run.onFirst (captureOn t o))
  | use (x : Usage) : Nested (Run.onFirst (Action.use x))
  | currentHub : Nested (Run.onFirst Action.currentHub)

end Program

/-! ### Around other code -/

theorem Run.after_eq {τ α : Type} {x : Run τ α} {y : Run τ Unit} {s s₁ s₂ : τ} {r : Outcome α}
    (ran : x s = (r, s₁)) (left : r ≠ .blocked) (then' : y s₁ = (.done (), s₂)) :
    Run.after x y s = (r, s₂) := by
  show Run.bind (Run.attempt x) _ s = _
  cases r with
  | blocked => exact absurd rfl left
  | done a =>
    have tried : Run.attempt x s = (.done (.ok a), s₁) := by rw [Run.attempt, ran]
    rw [Run.bind, tried]
    show Run.bind y _ s₁ = _
    rw [Run.bind, then']
    rfl
  | panicked p =>
    have tried : Run.attempt x s = (.done (.error p), s₁) := by rw [Run.attempt, ran]
    rw [Run.bind, tried]
    show Run.bind y _ s₁ = _
    rw [Run.bind, then']
    rfl

theorem Run.after_blocked {τ α : Type} {x : Run τ α} {y : Run τ Unit} {s : τ}
    (waits : (x s).1 = .blocked) : (Run.after x y s).1 = .blocked := by
  show (Run.bind (Run.attempt x) _ s).1 = _
  have tried : (Run.attempt x s).1 = .blocked := by
    unfold Run.attempt
    rcases ran : x s with ⟨r, s₁⟩
    rw [ran] at waits
    cases waits
    rfl
  unfold Run.bind
  rcases ran : Run.attempt x s with ⟨r, s₁⟩
  rw [ran] at tried
  cases tried
  rfl

/-- A layer that is put on top is known by its depth as long as those below stay. -/
theorem Layers.drop_push {s t : Layers} (below : t.below = s.push.below) :
    (if t.depth = s.push.depth then t.pop?.getD t else t) = s := by
  rw [depth, depth, below, if_pos rfl, pop?, below]
  rfl

/-- A hub is edited before something that keeps a contract and after it. -/
theorem World.SameBelow.around {w w₂ : World} {h : HubId} {f g : Hub → Hub}
    (kept : (w.editHub h f).SameBelow w₂)
    (below : h < w.hubs.length → (g (w₂.hub h)).layers.below = (w.hub h).layers.below)
    (locked : (g (w₂.hub h)).locked = (w.hub h).locked) : w.SameBelow (w₂.editHub h g) := by
  have length := w.length_editHub h f
  have length₂ := w₂.length_editHub h g
  have grows : w.hubs.length ≤ w₂.hubs.length := length ▸ kept.hubs
  constructor
  · rw [length₂]
    exact grows
  · intro i inside
    by_cases eq : h = i
    · subst eq
      rw [hub_editHub_self (Nat.lt_of_lt_of_le inside grows), below inside]
    · rw [hub_editHub_ne eq, kept.below i (length ▸ inside), hub_editHub_ne eq]
  · intro i
    by_cases eq : h = i
    · subst eq
      rcases Nat.lt_or_ge h w₂.hubs.length with inside | outside
      · rw [hub_editHub_self inside, locked]
      · rw [hub_outside (Nat.le_trans grows outside), hub_outside (length₂ ▸ outside)]
    · rw [hub_editHub_ne eq, kept.locked, hub_editHub_ne eq]
  · exact kept.inUse

namespace Program

open Telemetry.Action Telemetry.Client Run Contract

variable {σ α : Type} {idle : HubId → Prop} {h : HubId}

theorem after_closing (P : World → Prop) (w w₁ : World) (close : Action Unit) {x : Program σ α}
    (inner : Meets (hubs idle).onFirst x)
    (closes : ∀ w₂, w₁.SameBelow w₂ → ∃ w₃, close w₂ = (.done (), w₃) ∧ w.SameBelow w₃ ∧ P w₃)
    (own : σ) :
    let r := Run.after x (Run.onFirst close) (w₁, own)
    (w₁.Idle idle → r.1 ≠ .blocked) ∧ (r.1 ≠ .blocked → w.SameBelow r.2.1 ∧ P r.2.1) := by
  intro r
  by_cases waits : (x (w₁, own)).1 = .blocked
  · refine ⟨fun free => absurd waits (inner.ends _ free), fun left => ?_⟩
    exact absurd (Run.after_blocked waits) left
  · obtain ⟨w₃, closed, kept, holds⟩ := closes _ (inner.kept _ waits)
    have ran : r = ((x (w₁, own)).1, w₃, (x (w₁, own)).2.2) := by
      refine Run.after_eq rfl waits ?_
      show (_, _) = _
      rw [closed]
    rw [ran]
    exact ⟨fun _ => waits, fun _ => ⟨kept, holds⟩⟩

theorem onFirst_bind_done {β : Type} {x : Action α} {f : α → Program σ β} {a : α} {w w' : World}
    {own : σ} (ran : x w = (.done a, w')) : (Run.onFirst x >>= f) (w, own) = f a (w', own) := by
  show Run.bind (Run.onFirst x) f (w, own) = _
  simp only [Run.bind, Run.onFirst, ran]

theorem onFirst_bind_blocked {β : Type} {x : Action α} {f : α → Program σ β} {w w' : World}
    {own : σ} (ran : x w = (.blocked, w')) :
    (Run.onFirst x >>= f) (w, own) = (.blocked, w', own) := by
  show Run.bind (Run.onFirst x) f (w, own) = _
  simp only [Run.bind, Run.onFirst, ran]

/-! ### Edits -/

theorem whileLocked_eq {w : World} (unlocked : (w.hub h).locked = false) (x : Program σ α)
    (own : σ) :
    whileLocked h x (w, own) = Run.after x (Run.onFirst (setLocked h false))
      (w.editHub h fun hub => { hub with locked := true }, own) := by
  have read : (discard (Run.onFirst (layers h)) : Program σ Unit) (w, own) = (.done (), w, own) :=
    onFirst_bind_done (layers_eq unlocked)
  show Run.bind (discard (Run.onFirst (layers h))) _ (w, own) = _
  rw [Run.bind, read]
  rfl

theorem whileLocked_locked {w : World} (locked : (w.hub h).locked = true) (x : Program σ α)
    (own : σ) : (whileLocked h x (w, own)).1 = .blocked := by
  have read : (discard (Run.onFirst (layers h)) : Program σ Unit) (w, own) = (.blocked, w, own) :=
    onFirst_bind_blocked (layers_locked locked)
  show (Run.bind (discard (Run.onFirst (layers h))) _ (w, own)).1 = _
  rw [Run.bind, read]

theorem meets_whileLocked (hi : idle h) {x : Program σ α}
    (inner : Meets (hubs fun _ => False).onFirst x) :
    Meets (hubs idle).onFirst (whileLocked h x) := by
  have closing (w : World) (unlocked : (w.hub h).locked = false) (own : σ) := by
    let taken := w.editHub h fun hub => { hub with locked := true }
    -- while the hub is taken no hub counts as idle: the edit itself waits for none
    refine after_closing (fun _ => True) w taken (setLocked h false) inner (fun w₂ kept => ?_) own
    refine ⟨_, rfl, kept.around (fun inside => ?_) unlocked.symm, trivial⟩
    have below := World.hub_editHub_same (fun hub => hub.layers.below) (w := w) (i := h)
      (f := fun hub => { hub with locked := true }) rfl h
    exact (kept.below h (by rwa [World.length_editHub])).trans below
  refine .waiting (fun s => (s.1.hub h).locked) (fun s free => free.unlocked h hi)
    (fun s locked => whileLocked_locked locked x s.2) fun s unlocked => ?_
  rw [whileLocked_eq unlocked]
  have ⟨ends, kept⟩ := closing s.1 unlocked s.2
  exact ⟨fun free => ends ⟨free.inUse, fun _ => False.elim⟩, fun left => (kept left).1⟩

/-! ### Layers -/

theorem drop_eq {g : ScopeGuard} {w : World} (unlocked : (w.hub g.hub).locked = false) :
    let s := (w.hub g.hub).layers
    let left := w.editHub g.hub fun hub =>
      { hub with layers := if s.depth = g.depth then s.pop?.getD s else s }
    ∃ log, g.drop w = (.done (), { left with thread := { left.thread with log } }) := by
  intro s left
  have edited := editLayers_eq unlocked fun s =>
    (s.depth, if s.depth = g.depth then s.pop?.getD s else s)
  by_cases same : s.depth = g.depth
  · exact ⟨w.thread.log, (bind_done edited).trans (congrFun (if_neg (not_not_intro same)) left)⟩
  · exact ⟨_, (bind_done edited).trans (congrFun (if_pos same) left)⟩

theorem withLayer_eq {w : World} (unlocked : (w.hub h).locked = false) (x : Program σ α)
    (own : σ) :
    let s := (w.hub h).layers.push
    withLayer h x (w, own) = Run.after x (Run.onFirst (ScopeGuard.mk h s.depth).drop)
      (w.editHub h fun hub => { hub with layers := s }, own) := by
  have pushed : pushScope h w = _ := editLayers_eq unlocked _
  exact onFirst_bind_done pushed

theorem withLayer_locked {w : World} (locked : (w.hub h).locked = true) (x : Program σ α)
    (own : σ) : (withLayer h x (w, own)).1 = .blocked := by
  have waits : pushScope h w = (.blocked, w) := editLayers_locked locked _
  exact congrArg Prod.fst (onFirst_bind_blocked waits)

/-- A layer goes as it came, if the code in between leaves the layers below the top alone. -/
theorem withLayer_closing {x : Program σ α} (inner : Meets (hubs idle).onFirst x) {w : World}
    (unlocked : (w.hub h).locked = false) (own : σ) :
    let r := withLayer h x (w, own)
    (w.Idle idle → r.1 ≠ .blocked) ∧ (r.1 ≠ .blocked → w.SameBelow r.2.1 ∧
      (h < w.hubs.length → (r.2.1.hub h).layers = (w.hub h).layers)) := by
  let s := (w.hub h).layers.push
  let pushed := w.editHub h fun hub => { hub with layers := s }
  have still (i : HubId) : (pushed.hub i).locked = (w.hub i).locked :=
    World.hub_editHub_same Hub.locked rfl i
  rw [withLayer_eq unlocked]
  intro r
  have closing := after_closing (fun w₃ => h < w.hubs.length → (w₃.hub h).layers = (w.hub h).layers)
    w pushed (ScopeGuard.mk h s.depth).drop inner (fun w₂ kept => ?_) own
  · refine ⟨fun free => closing.1 ⟨free.inUse, fun i hi => ?_⟩, closing.2⟩
    rw [still, free.unlocked i hi]
  have free : (w₂.hub h).locked = false := by rw [kept.locked, still, unlocked]
  obtain ⟨log, dropped⟩ := drop_eq (g := ⟨h, s.depth⟩) free
  -- the layers below are the pushed ones, so the depth is that of the guard
  have restored (inside : h < w.hubs.length) := Layers.drop_push (s := (w.hub h).layers) <| by
    rw [kept.below h (by rwa [World.length_editHub]), World.hub_editHub_self inside]
  refine ⟨_, dropped, (kept.around (fun inside => ?_) ?_).trans (.of_hubs rfl rfl), ?_⟩
  · exact congrArg Layers.below (restored inside)
  · exact free.trans unlocked.symm
  · intro inside
    have there := Nat.lt_of_lt_of_le inside (w.length_editHub h _ ▸ kept.hubs)
    exact (congrArg Hub.layers (World.hub_editHub_self there _)).trans (restored inside)

theorem meets_withLayer (hi : idle h) {x : Program σ α} (inner : Meets (hubs idle).onFirst x) :
    Meets (hubs idle).onFirst (withLayer h x) := by
  refine .waiting (fun s => (s.1.hub h).locked) (fun s free => free.unlocked h hi)
    (fun s locked => withLayer_locked locked x s.2) fun s unlocked => ?_
  have ⟨ends, kept⟩ := withLayer_closing inner unlocked s.2
  exact ⟨ends, fun left => (kept left).1⟩

/-! ### Closures -/

theorem meets_raise (ending : Ending α) :
    Meets (hubs idle).onFirst (raise ending : Program σ α) := by
  cases ending with
  | returns a => exact .pure a
  | panics p => exact (meets_panic p).onFirst
  | panicsAgain p => exact (Meets.unwind p).onFirst

/-- What the program does with its own state. -/
theorem meets_own {β : Type} (f : σ → β × σ) :
    Meets (hubs idle).onFirst (Run.onSecond (Run.modifyGet f) : Program σ β) where
  ends _ _ := Outcome.done_ne _
  kept s _ := (hubs idle).refl s.1

theorem meets_closure (f : σ → Ending α × σ) : Meets (hubs idle).onFirst (closure f) :=
  .bind (meets_own f) meets_raise

theorem meets_editScope (h : HubId) (f : Scope → Scope) : Meets (hubs idle) (editScope h f) :=
  meets_editHub (fun _ => rfl) fun _ => rfl

theorem meets_editing (f : Scope × σ → Ending α × Scope × σ) (h : HubId) :
    Meets (hubs idle).onFirst (editing f h) := by
  refine .bind Meets.get.onFirst fun w => .bind (meets_own _) fun made => ?_
  exact .bind (meets_editScope h _).onFirst fun _ => meets_raise _

/-! ### Calls in each other -/

theorem Nested.meets {x : Program σ α} (nested : Nested x) :
    Meets (hubs fun _ => True).onFirst x := by
  induction nested with
  | pure a => exact .pure a
  | bind _ _ ihx ihf => exact ihx.bind ihf
  | attempt _ ih => exact ih.attempt
  | closure f => exact meets_closure f
  | withScope t config _ ih =>
    refine .bind (meets_find? t).onFirst fun h => ?_
    cases h with
    | none => exact ih
    | some h =>
      refine meets_withLayer trivial ?_
      exact .bind (meets_whileLocked trivial (meets_editing config h)) fun _ => ih
  | withLayer h _ ih => exact meets_withLayer trivial ih
  | configureScope t f =>
    refine .bind (meets_find? t).onFirst fun h => ?_
    cases h with
    | none => exact .pure _
    | some h =>
      exact .bind (meets_whileLocked trivial (meets_editing f h)) fun _ => .pure _
  | addBreadcrumbs t make =>
    refine .bind (meets_find? t).onFirst fun h => ?_
    cases h with
    | none => exact .pure _
    | some h =>
      refine meets_whileLocked trivial (.bind Meets.get.onFirst fun w => ?_)
      split
      · split
        · exact .bind (meets_closure make) fun crumbs => (meets_editScope h _).onFirst
        · exact .pure _
      · exact .pure _
  | bindClient h client => exact (meets_bindClient trivial client).onFirst
  | capture t o => exact (meets_captureOn (fun _ => trivial) t o).onFirst
  | use x => exact (meets_use (fun _ => trivial) x).onFirst
  | currentHub => exact meets_currentHub.onFirst

/-- Code runs under a layer of a hub. It comes to an end if nobody writes to a hub before, and when
it does, returning or panicking, every layer of the hub is what it was. -/
theorem withScope_restores {h : HubId} (config : Scope × σ → Ending Unit × Scope × σ)
    {callback : Program σ α} (nested : Nested callback) {w : World} (there : h < w.hubs.length)
    (own : σ) :
    let r := withScope (.hub h) (editing config) callback (w, own)
    (r.1 ≠ .blocked → (r.2.1.hub h).layers = (w.hub h).layers) ∧
      ((∀ i, (w.hub i).locked = false) → (∃ i, w.inUse? = some i) → r.1 ≠ .blocked) := by
  have inner : Meets (hubs fun _ => True).onFirst
      (whileLocked h (editing config h) >>= fun _ => callback) :=
    .bind (meets_whileLocked trivial (meets_editing config h)) fun _ => nested.meets
  have layered : withScope (.hub h) (editing config) callback =
      withLayer h (whileLocked h (editing config h) >>= fun _ => callback) := rfl
  rw [layered]
  intro r
  refine ⟨fun left => ?_, fun unlocked current => ?_⟩
  · cases locked : (w.hub h).locked with
    | true => exact absurd (withLayer_locked locked _ own) left
    | false => exact ((withLayer_closing inner locked own).2 left).2 there
  · exact (withLayer_closing inner (unlocked h) own).1 ⟨current, fun i _ => unlocked i⟩

/-- The client of a layer goes, one more layer comes, and an edit of that panics halfway. -/
theorem withScope_restores_panic :
    let w : World :=
      { World.single (plain (logging none)) busy with
        thread := { ThreadState.new with ownsMain := true } }
    let boom : Payload := ⟨1, .text "boom"⟩
    let config : Scope × Unit → Ending Unit × Scope × Unit := fun (s, own) =>
      (.returns (), s.setTag "inner" "true", own)
    let fails : Scope × Unit → Ending Unit × Scope × Unit := fun (s, own) =>
      (.panics boom, s.setTag "outer" "true", own)
    let callback : Program Unit (Option Unit) := do
      (bindClient 0 none : Action Unit)
      withLayer 0 (configureScope (.hub 0) (editing fails))
    let r := withScope (.hub 0) (editing config) callback (w, ())
    Nested callback ∧ 0 < w.hubs.length ∧ (∀ i, (w.hub i).locked = false) ∧
      (∃ i, w.inUse? = some i) ∧ r.1 ≠ .blocked ∧ r.1 = .panicked boom ∧
      (r.2.1.hub 0).layers = (w.hub 0).layers := by
  intro w boom config fails callback r
  have nested : Nested callback :=
    .bind (.bindClient 0 none) fun _ => .withLayer 0 (.configureScope (.hub 0) fails)
  have there : 0 < w.hubs.length := Nat.zero_lt_one
  have unlocked (i : HubId) : (w.hub i).locked = false := by
    cases i <;> rfl
  obtain ⟨restores, ends⟩ := withScope_restores config nested there ()
  have left := ends unlocked ⟨0, rfl⟩
  exact ⟨nested, there, unlocked, ⟨0, rfl⟩, left, rfl, restores left⟩

end Program

end Telemetry
