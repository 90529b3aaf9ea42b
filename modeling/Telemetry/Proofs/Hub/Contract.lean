import Telemetry.Proofs.Hub.Closing

/-! What calls leave of the hubs. Whatever is captured, and in which hub, the layers below the top
of every hub stay as they are. And a call comes to an end unless it needs a hub that somebody writes
to. -/

namespace Telemetry

theorem Outcome.done_ne {α : Type} (a : α) : done a ≠ blocked := nofun

theorem Outcome.panicked_ne {α : Type} (p : Payload) : (panicked p : Outcome α) ≠ blocked := nofun

/-- What a computation is held to: from some states on it has to come to an end, and if it does,
what it makes of a state has to be related to that. -/
structure Contract (τ : Type) where
  free : τ → Prop
  kept : τ → τ → Prop
  refl : ∀ s, kept s s
  trans : ∀ {s₁ s₂ s₃}, kept s₁ s₂ → kept s₂ s₃ → kept s₁ s₃
  lasting : ∀ {s s'}, kept s s' → free s → free s'

/-- The same for the first part of a state. -/
def Contract.onFirst {τ υ : Type} (c : Contract τ) : Contract (τ × υ) where
  free s := c.free s.1
  kept s s' := c.kept s.1 s'.1
  refl s := c.refl s.1
  trans h h' := c.trans h h'
  lasting h free := c.lasting h free

namespace Run

variable {τ υ α β : Type}

structure Meets (c : Contract τ) (x : Run τ α) : Prop where
  ends : ∀ s, c.free s → (x s).1 ≠ .blocked
  kept : ∀ s, (x s).1 ≠ .blocked → c.kept s (x s).2

namespace Meets

variable {c : Contract τ} {x : Run τ α}

theorem pure (a : α) : Meets c (Pure.pure a) where
  ends _ _ := Outcome.done_ne _
  kept s _ := c.refl s

theorem get : Meets c Run.get where
  ends _ _ := Outcome.done_ne _
  kept s _ := c.refl s

theorem unwind (p : Payload) : Meets c (Run.unwind p : Run τ α) where
  ends _ _ := Outcome.panicked_ne p
  kept s _ := c.refl s

theorem modify {f : τ → τ} (h : ∀ s, c.kept s (f s)) : Meets c (Run.modify f) where
  ends _ _ := Outcome.done_ne _
  kept s _ := h s

theorem bind {f : α → Run τ β} (hx : Meets c x) (hf : ∀ a, Meets c (f a)) :
    Meets c (x >>= f) := by
  have step (s : τ) : (x >>= f) s = Run.bind x f s := rfl
  constructor
  · intro s free
    have first := hx.ends s free
    have kept := hx.kept s first
    rw [step, Run.bind]
    rcases ran : x s with ⟨r, s'⟩
    rw [ran] at first kept
    cases r with
    | done a => exact (hf a).ends s' (c.lasting kept free)
    | panicked p => exact Outcome.panicked_ne p
    | blocked => exact absurd rfl first
  · intro s left
    have kept := hx.kept s
    rw [step, Run.bind] at left ⊢
    rcases ran : x s with ⟨r, s'⟩
    rw [ran] at left kept
    cases r with
    | done a => exact c.trans (kept (Outcome.done_ne a)) ((hf a).kept s' left)
    | panicked p => exact kept (Outcome.panicked_ne p)
    | blocked => exact absurd rfl left

theorem attempt (hx : Meets c x) : Meets c (Run.attempt x) := by
  constructor
  · intro s free
    have first := hx.ends s free
    unfold Run.attempt
    rcases ran : x s with ⟨r, s'⟩
    rw [ran] at first
    cases r with
    | done a => exact Outcome.done_ne _
    | panicked p => exact Outcome.done_ne _
    | blocked => exact absurd rfl first
  · intro s left
    have kept := hx.kept s
    unfold Run.attempt at left ⊢
    rcases ran : x s with ⟨r, s'⟩
    rw [ran] at left kept
    cases r with
    | done a => exact kept (Outcome.done_ne a)
    | panicked p => exact kept (Outcome.panicked_ne p)
    | blocked => exact absurd rfl left

/-- A computation that waits while something is held, for which it must not be held from the start.
-/
theorem waiting (held : τ → Bool) (free : ∀ s, c.free s → held s = false)
    (waits : ∀ s, held s = true → (x s).1 = .blocked)
    (runs : ∀ s, held s = false → (c.free s → (x s).1 ≠ .blocked) ∧
      ((x s).1 ≠ .blocked → c.kept s (x s).2)) : Meets c x where
  ends s h := (runs s (free s h)).1 h
  kept s left := by
    cases taken : held s with
    | false => exact (runs s taken).2 left
    | true => exact absurd (waits s taken) left

theorem onFirst (hx : Meets c x) : Meets (c.onFirst (υ := υ)) (Run.onFirst x) where
  ends s free := hx.ends s.1 free
  kept s left := hx.kept s.1 left

end Meets

end Run

/-! ### Layers that stay -/

namespace World

/-- The layers below the tops, the locks and the hub in use are the same. -/
structure SameBelow (w w' : World) : Prop where
  hubs : w.hubs.length ≤ w'.hubs.length
  below : ∀ h < w.hubs.length, (w'.hub h).layers.below = (w.hub h).layers.below
  locked : ∀ h, (w'.hub h).locked = (w.hub h).locked
  inUse : ∀ h, w.inUse? = some h → w'.inUse? = some h

variable {w w' w'' : World}

theorem SameBelow.trans (h : w.SameBelow w') (h' : w'.SameBelow w'') : w.SameBelow w'' where
  hubs := Nat.le_trans h.hubs h'.hubs
  below i inside := (h'.below i (Nat.lt_of_lt_of_le inside h.hubs)).trans (h.below i inside)
  locked i := (h'.locked i).trans (h.locked i)
  inUse i current := h'.inUse i (h.inUse i current)

theorem SameBelow.of_hubs (hubs : w'.hubs = w.hubs) (inUse : w'.inUse? = w.inUse?) :
    w.SameBelow w' := by
  have same (i : HubId) : w'.hub i = w.hub i := by rw [hub, hubs, hub]
  constructor
  · exact Nat.le_of_eq (congrArg List.length hubs).symm
  · intro i _
    rw [same]
  · intro i
    rw [same]
  · intro i current
    rw [inUse, current]

theorem SameBelow.editHub {i : HubId} {f : Hub → Hub}
    (below : (f (w.hub i)).layers.below = (w.hub i).layers.below)
    (locked : (f (w.hub i)).locked = (w.hub i).locked) : w.SameBelow (w.editHub i f) where
  hubs := Nat.le_of_eq (w.length_editHub i f).symm
  below j _ := hub_editHub_same (fun hub => hub.layers.below) below j
  locked j := hub_editHub_same Hub.locked locked j
  inUse _ current := current

theorem SameBelow.addHub {x : Hub} {thread : ThreadState} (unlocked : x.locked = false)
    (unused : w.inUse? = none) : w.SameBelow { w with hubs := w.hubs ++ [x], thread } where
  hubs := by simp
  below i inside := by
    have same := (hub_addHub (w := w) x i).trans (if_neg (Nat.ne_of_lt inside))
    exact congrArg (fun hub => hub.layers.below) same
  locked i := by
    have added : ({ w with hubs := w.hubs ++ [x], thread } : World).hub i = _ := hub_addHub x i
    rw [added]
    split
    · next eq =>
      rw [unlocked, hub_outside (Nat.le_of_eq eq.symm)]
      rfl
    · rfl
  inUse i current := by cases unused.symm.trans current

/-- There is a hub in use, and nobody writes to some hubs. -/
structure Idle (idle : HubId → Prop) (w : World) : Prop where
  inUse : ∃ h, w.inUse? = some h
  unlocked : ∀ h, idle h → (w.hub h).locked = false

end World

namespace Contract

/-- The contract of whoever may wait for nothing but hubs that are not idle. -/
def hubs (idle : HubId → Prop) : Contract World where
  free := World.Idle idle
  kept := World.SameBelow
  refl _ := .of_hubs rfl rfl
  trans := World.SameBelow.trans
  lasting kept free := {
    inUse := free.inUse.imp kept.inUse
    unlocked := fun h hi => (kept.locked h).trans (free.unlocked h hi) }

end Contract

namespace Action

open Run Contract

variable {α β : Type} {idle : HubId → Prop} {h : HubId}

/-! ### Hubs -/

/-- What has to do with no hub. -/
theorem meets_aside {x : Action α} (ends : ∀ w, (x w).1 ≠ .blocked)
    (aside : ∀ w, (x w).2.hubs = w.hubs ∧ (x w).2.inUse? = w.inUse?) : Meets (hubs idle) x where
  ends w _ := ends w
  kept w _ := .of_hubs (aside w).1 (aside w).2

theorem meets_draw (f : Fresh → α × Fresh) : Meets (hubs idle) (draw f) :=
  meets_aside (fun _ => Outcome.done_ne _) fun _ => ⟨rfl, rfl⟩

theorem meets_tell (ds : List Diagnostic) : Meets (hubs idle) (tell ds) :=
  meets_aside (fun _ => Outcome.done_ne _) fun _ => ⟨rfl, rfl⟩

theorem meets_layers (hi : idle h) : Meets (hubs idle) (layers h) := by
  refine .waiting (fun w => (w.hub h).locked) (fun w free => free.unlocked h hi)
    (fun w locked => ?_) fun w unlocked => ?_
  · rw [layers_locked locked]
  · rw [layers_eq unlocked]
    exact ⟨fun _ => Outcome.done_ne _, fun _ => (hubs idle).refl w⟩

theorem meets_top (hi : idle h) : Meets (hubs idle) (top h) :=
  .bind (meets_layers hi) fun _ => .pure _

theorem meets_currentHub : Meets (hubs idle) currentHub where
  ends w free := by
    obtain ⟨h, current⟩ := free.inUse
    rw [currentHub_eq current]
    exact Outcome.done_ne _
  kept w left := by
    cases used : w.inUse? with
    | some h =>
      rw [currentHub_eq used]
      exact (hubs idle).refl w
    | none =>
      cases locked : (w.hub w.main).locked with
      | true =>
        have waits : currentHub w = (.blocked, w) :=
          (currentHub_none used).trans (bind_blocked (bind_blocked (top_locked locked)))
        rw [waits] at left
        exact absurd rfl left
      | false =>
        let new := Hub.new (w.hub w.main).layers.top.client (w.hub w.main).layers.top.scope
        have forked : currentHub w = (.done w.hubs.length,
            { w with
              hubs := w.hubs ++ [new]
              thread := { w.thread with derived := some w.hubs.length } }) :=
          (currentHub_none used).trans (bind_done (forkHub_eq locked))
        rw [forked]
        exact .addHub rfl used

theorem meets_find? (t : Target) : Meets (hubs idle) t.find? := by
  cases t with
  | hub h => exact .pure _
  | active =>
    refine .bind meets_currentHub fun h => .bind ?_ fun active => .pure _
    exact meets_aside (fun _ => Outcome.done_ne _) fun _ => ⟨rfl, rfl⟩

theorem meets_visit (t : Target) (default : α) {f : HubId → Action α}
    (hf : ∀ h, Meets (hubs idle) (f h)) : Meets (hubs idle) (t.visit default f) := by
  refine .bind (meets_find? t) fun h => ?_
  cases h with
  | some h => exact hf h
  | none => exact .pure _

theorem meets_editHub {f : Hub → Hub} (below : ∀ hub, (f hub).layers.below = hub.layers.below)
    (locked : ∀ hub, (f hub).locked = hub.locked) :
    Meets (hubs idle) (Run.modify (World.editHub h f)) :=
  .modify fun _ => .editHub (below _) (locked _)

theorem meets_editLayers (hi : idle h) {f : Layers → α × Layers}
    (below : ∀ s, (f s).2.below = s.below) : Meets (hubs idle) (editLayers h f) := by
  refine .waiting (fun w => (w.hub h).locked) (fun w free => free.unlocked h hi)
    (fun w locked => ?_) fun w unlocked => ?_
  · rw [editLayers_locked locked]
  · rw [editLayers_eq unlocked]
    exact ⟨fun _ => Outcome.done_ne _, fun _ => .editHub (below _) rfl⟩

theorem meets_bindClient (hi : idle h) (client : Option ClientId) :
    Meets (hubs idle) (bindClient h client) :=
  meets_editLayers hi fun _ => rfl

/-! ### Clients -/

theorem meets_onClient (c : ClientId) (default : α)
    (f : Instant → Emitter.Pace → Client → Client.Step α) :
    Meets (hubs idle) (onClient c default f) := by
  refine meets_aside (fun w => ?_) fun w => ?_
  · cases found : w.clients[c]? with
    | none =>
      rw [onClient_none found]
      exact Outcome.done_ne _
    | some client =>
      rw [onClient_some found]
      dsimp only
      split
      · exact Outcome.panicked_ne _
      · exact Outcome.done_ne _
  · cases found : w.clients[c]? with
    | none =>
      rw [onClient_none found]
      exact ⟨rfl, rfl⟩
    | some client =>
      rw [onClient_some found]
      exact ⟨rfl, rfl⟩

theorem meets_process (c : ClientId) (client : Client) (scope : Option Scope) (hint : EventHint)
    (e : Event) (stack : Option Stacktrace) (traces : Traces) :
    Meets (hubs idle) (client.process (passage c client scope hint) stack traces scope e) := by
  have after (r : Except EventDrop Event) : Meets (hubs idle) (afterPrepare c client r) := by
    cases r with
    | error d => exact .pure _
    | ok e =>
      refine .bind (.bind .get fun w => .pure _) fun now => ?_
      split
      · exact .pure _
      · exact .bind (meets_onClient c () _) fun _ => .pure _
  cases current : client.current? with
  | none =>
    rw [process_gone current]
    exact .pure _
  | some p =>
    have attached : client.current?.isSome = true := by rw [current]; rfl
    constructor
    · intro w free
      obtain ⟨r, fresh, -, processed⟩ := process_eq attached c scope hint e stack traces w
      rw [processed]
      exact (after r).ends _ ⟨free.inUse, free.unlocked⟩
    · intro w left
      obtain ⟨r, fresh, -, processed⟩ := process_eq attached c scope hint e stack traces w
      rw [processed] at left ⊢
      have drawn : w.SameBelow { w with fresh } := .of_hubs rfl rfl
      exact drawn.trans ((after r).kept _ left)

theorem meets_processEvent (c : ClientId) (scope : Option Scope) (hint : EventHint) (e : Event) :
    Meets (hubs idle) (processEvent c scope hint e) := by
  refine .bind (meets_onClient c () _) fun _ => .bind (.bind .get fun w => .pure _) fun client => ?_
  cases client with
  | none => exact .pure _
  | some client =>
    refine .bind .get fun w => .bind (meets_process c client scope hint e w.stack w.traces) ?_
    exact fun verdict => .bind (meets_tell _) fun _ => .pure _

theorem meets_captureIn (hi : idle h) (hint : EventHint) (e : Event) :
    Meets (hubs idle) (captureIn h hint e) := by
  refine .bind (meets_top hi) fun top => ?_
  cases top.client with
  | none => exact .pure _
  | some c =>
    refine .bind (meets_processEvent c _ hint e) fun id => ?_
    cases id.isNil with
    | true => exact .pure _
    | false => exact .bind (meets_editHub (fun _ => rfl) fun _ => rfl) fun _ => .pure _

theorem meets_flush (hi : idle h) : Meets (hubs idle) (flush (.hub h)) := by
  change Meets (hubs idle) (top h >>= _)
  refine .bind (meets_top hi) fun top => ?_
  cases top.client with
  | some c => exact meets_onClient c true _
  | none => exact .pure _

theorem meets_blankEvent : Meets (hubs idle) blankEvent := meets_draw _

theorem meets_recover (hi : idle h) (p : Payload) : Meets (hubs idle) (recover h p) := by
  refine .bind (.bind ?_ fun t => .bind ?_ fun _ => .pure _) fun stack => ?_
  · exact .bind .get fun w => .pure _
  · exact meets_aside (fun _ => Outcome.done_ne _) fun _ => ⟨rfl, rfl⟩
  · exact .bind meets_blankEvent fun blank => meets_captureIn hi _ _

section Anywhere

variable (all : ∀ h, idle h)
include all

theorem meets_captureOn (t : Target) (o : Occasion) : Meets (hubs idle) (captureOn t o) := by
  cases o with
  | event hint e => exact meets_visit t _ fun h => meets_captureIn (all h) hint e
  | message text level =>
    refine meets_visit t _ fun h => .bind meets_blankEvent fun blank => ?_
    exact meets_captureIn (all h) _ _
  | error chain =>
    refine meets_visit t _ fun h => .bind (meets_top (all h)) fun top => ?_
    split
    · exact .pure _
    · exact .bind meets_blankEvent fun blank => meets_captureIn (all h) _ _
  | checkIn checkIn monitor =>
    refine meets_visit t _ fun h => .bind meets_blankEvent fun blank => ?_
    exact .bind (meets_captureIn (all h) _ _) fun id => .pure _

theorem meets_use (x : Usage) : Meets (hubs idle) (use x) := by
  cases x with
  | event t o => exact .bind (meets_captureOn all t o) fun _ => .pure _
  | log t l =>
    refine meets_visit t _ fun h => .bind (meets_top (all h)) fun top => ?_
    split
    · exact .bind .get fun w => meets_onClient _ _ _
    · exact .pure _
  | metric t m =>
    refine meets_visit t _ fun h => .bind (meets_top (all h)) fun top => ?_
    split
    · exact .bind .get fun w => meets_onClient _ _ _
    · exact .pure _
  | finish n =>
    cases n with
    | span i => exact meets_aside (fun _ => Outcome.done_ne _) fun _ => ⟨rfl, rfl⟩
    | transaction i =>
      refine .bind meets_blankEvent fun blank => .bind ?_ fun sent => ?_
      · exact meets_aside (fun _ => Outcome.done_ne _) fun _ => ⟨rfl, rfl⟩
      · split
        · refine .bind meets_currentHub fun h => .bind (meets_top (all h)) fun top => ?_
          exact .bind (meets_processEvent _ _ _ _) fun _ => .pure _
        · exact .pure _
  | panic h p => exact .bind (meets_recover (all h) p) fun _ => .pure _
  | flush t =>
    refine .bind ?_ fun _ => .pure _
    cases t with
    | hub h => exact meets_flush (all h)
    | active => exact .bind meets_currentHub fun h => meets_flush (all h)

end Anywhere

/-! ### Panics -/

/-- Whoever notices a panic leaves a hub alone that somebody writes to, so it waits for none. -/
theorem meets_noticePanic (p : Payload) : Meets (hubs idle) (noticePanic p) := by
  obtain ⟨notice, visits, meets⟩ : ∃ notice : HubId → Action Unit,
      noticePanic p = Target.active.visit () notice ∧
        ∀ (idle : HubId → Prop) (h : HubId), idle h → Meets (hubs idle) (notice h) := by
    refine ⟨_, rfl, fun idle h hi => .bind (meets_top hi) fun top => .bind ?_ fun client => ?_⟩
    · cases top.client with
      | none => exact .pure _
      | some c => exact .bind .get fun w => .pure _
    split
    · refine .bind .get fun w => .bind (.bind (.bind .get fun _ => .pure _) fun _ => .pure _) ?_
      intro inside
      split
      · refine .bind (meets_tell _) fun _ => ?_
        exact meets_aside (fun _ => Outcome.done_ne _) fun _ => ⟨rfl, rfl⟩
      · refine .bind (meets_tell _) fun _ => .bind meets_blankEvent fun blank => ?_
        refine .bind (meets_captureIn hi _ _) fun id => .bind (meets_tell _) fun _ => ?_
        exact .bind (meets_flush hi) fun _ => .pure _
    · exact .pure _
  rw [visits]
  constructor
  · intro w free
    obtain ⟨h, current⟩ := free.inUse
    rw [visit_active current]
    split
    · next active =>
      have unlocked : (w.hub h).locked = false := by simpa using (Bool.and_eq_true_iff.mp active).1
      -- only the hub in use is known to be idle here, and no other is needed
      exact (meets (· = h) h rfl).ends w ⟨⟨h, current⟩, fun i eq => eq ▸ unlocked⟩
    · exact Outcome.done_ne _
  · exact (meets_visit .active () fun h => meets (fun _ => True) h trivial).kept

theorem meets_panic (p : Payload) : Meets (hubs idle) (panic p : Action α) := by
  refine .bind .get fun w => ?_
  split
  · exact .bind (meets_noticePanic p) fun _ => .unwind p
  · exact .unwind p

end Action

end Telemetry
