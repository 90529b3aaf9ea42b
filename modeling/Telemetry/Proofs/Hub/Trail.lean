import Telemetry.Proofs.Hub.Restoring
import Telemetry.Proofs.Scope.Breadcrumbs

/-! Breadcrumbs added in a hub, while it changes its client. The scope keeps them by the law of
scopes: what counts is what the callback of the client of the moment lets through, and that client's
limit. -/

namespace Telemetry

/-- The breadcrumbs that a client lets through, as it changed them, each with the client's limit. -/
def Settings.letThrough (s : Settings) (crumbs : List Breadcrumb) : List (Breadcrumb × Nat) :=
  (crumbs.filterMap fun b => s.beforeBreadcrumb.elim (some b) fun f => f b).map
    fun b => (b, s.maxBreadcrumbs)

theorem Action.addBreadcrumbsTo_eq (s : Settings) (crumbs : List Breadcrumb) (scope : Scope) :
    addBreadcrumbsTo s crumbs scope = scope.addAll (s.letThrough crumbs) := by
  unfold addBreadcrumbsTo Settings.letThrough
  induction crumbs generalizing scope with
  | nil => rfl
  | cons b crumbs ih =>
    rw [List.foldl_cons, ih]
    cases callback : s.beforeBreadcrumb with
    | none => rfl
    | some f =>
      cases asked : f b <;> simp [asked, Scope.addAll]

namespace Program

open Telemetry.Action Telemetry.Client

variable {σ : Type}

/-- What is done with the breadcrumbs of a hub: it gets another client, or some are added, which are
made if there is a client that wants them. -/
inductive TrailStep (σ : Type) where
  | bindClient (client : Option ClientId)
  | add (make : σ → List Breadcrumb × σ)

def TrailStep.perform (h : HubId) : TrailStep σ → Program σ Unit
  | .bindClient client => (Action.bindClient h client : Action Unit)
  | .add make => addBreadcrumbs (.hub h) (Run.onSecond (Run.modifyGet make))

/-- Forgets the breadcrumbs of a hub. -/
def clearBreadcrumbs (h : HubId) : Program σ (Option Unit) :=
  configureScope (.hub h) fun h => (editScope h Scope.clearBreadcrumbs : Action Unit)

/-- What a step adds to the scope of a hub with some client, and the client and state after it. -/
def TrailStep.admits (clients : List Client) (client : Option ClientId) (own : σ) :
    TrailStep σ → List (Breadcrumb × Nat) × Option ClientId × σ
  | .bindClient client => ([], client, own)
  | .add make =>
    match client.bind fun c => clients[c]? with
    | some c => (c.options.letThrough (make own).1, client, (make own).2)
    | none => ([], client, own)

/-- The breadcrumbs that get to the scope of a hub with some client, and with which limits. -/
def admitted (clients : List Client) (client : Option ClientId) (own : σ) :
    List (TrailStep σ) → List (Breadcrumb × Nat)
  | [] => []
  | step :: steps =>
    let (crumbs, client, own) := step.admits clients client own
    crumbs ++ admitted clients client own steps

/-- The top layer of a hub is now `l`, and the clients are as they were. -/
structure Retopped (h : HubId) (l : Layer) (w w' : World) : Prop where
  inside : h < w'.hubs.length
  top : (w'.hub h).layers.top = l
  clients : w'.clients = w.clients

variable {h : HubId} {w w' : World} {l : Layer}

theorem Retopped.editHub (inside : h < w.hubs.length) (f : Hub → Hub) :
    Retopped h (f (w.hub h)).layers.top w (w.editHub h f) :=
  ⟨by rwa [World.length_editHub], by rw [World.hub_editHub_self inside], rfl⟩

theorem Retopped.editScope_locked (inside : h < w.hubs.length) (f : Scope → Scope) :
    Retopped h ⟨(w.hub h).layers.top.client, f (w.hub h).layers.top.scope⟩ w
      ((w.editHub h fun hub => { hub with locked := true }).editHub h fun hub =>
        { hub with layers := hub.layers.editScope f }) := by
  obtain ⟨inside', top, _⟩ := Retopped.editHub inside fun hub => { hub with locked := true }
  obtain ⟨inside₂, top₂, _⟩ := Retopped.editHub inside' fun hub =>
    { hub with layers := hub.layers.editScope f }
  refine ⟨inside₂, top₂.trans ?_, rfl⟩
  show Layer.mk _ _ = _
  rw [top]

/-- What is left of a hub after code that has it to itself. -/
theorem whileLocked_retops {α : Type} (unlocked : (w.hub h).locked = false) {x : Program σ α}
    {own own' : σ} {a : α}
    (ran : x (w.editHub h fun hub => { hub with locked := true }, own) = (.done a, w', own'))
    (left : Retopped h l w w') :
    ∃ w₁, whileLocked h x (w, own) = (.done a, w₁, own') ∧ Retopped h l w w₁ ∧
      (w₁.hub h).locked = false := by
  have ended := Run.after_eq (y := Run.onFirst (setLocked h false)) ran nofun rfl
  refine ⟨_, (whileLocked_eq unlocked x own).trans ended, ?_, ?_⟩
  · obtain ⟨inside, top, clients⟩ := Retopped.editHub left.inside fun hub =>
      { hub with locked := false }
    exact ⟨inside, top.trans left.top, clients.trans left.clients⟩
  · exact congrArg Hub.locked (World.hub_editHub_self left.inside _)

theorem bind_ran {α β : Type} {x : Program σ α} {f : α → Program σ β} {own own' : σ} {a : α}
    (ran : x (w, own) = (.done a, w', own')) : (x >>= f) (w, own) = f a (w', own') := by
  show Run.bind x f (w, own) = _
  rw [Run.bind, ran]

theorem clearBreadcrumbs_retops (inside : h < w.hubs.length) (unlocked : (w.hub h).locked = false)
    (own : σ) : ∃ w₁, clearBreadcrumbs h (w, own) = (.done (some ()), w₁, own) ∧
      Retopped h ⟨(w.hub h).layers.top.client, (w.hub h).layers.top.scope.clearBreadcrumbs⟩ w w₁ ∧
      (w₁.hub h).locked = false := by
  have edits := Retopped.editScope_locked inside Scope.clearBreadcrumbs
  let clear : Program σ Unit := Run.onFirst (editScope h Scope.clearBreadcrumbs)
  obtain ⟨w₁, ran, left, free⟩ : ∃ w₁, whileLocked h clear (w, own) = (.done (), w₁, own) ∧ _ :=
    whileLocked_retops unlocked rfl edits
  exact ⟨w₁, bind_ran (f := fun a => pure (some a)) ran, left, free⟩

theorem bindClient_retops (inside : h < w.hubs.length) (unlocked : (w.hub h).locked = false)
    (client : Option ClientId) (own : σ) :
    ∃ w₁, (TrailStep.bindClient client).perform h (w, own) = (.done (), w₁, own) ∧
      Retopped h ⟨client, (w.hub h).layers.top.scope⟩ w w₁ ∧ (w₁.hub h).locked = false := by
  have bound : Action.bindClient h client w = _ := editLayers_eq unlocked _
  have left := Retopped.editHub inside fun hub =>
    { hub with layers := { (w.hub h).layers with top := { (w.hub h).layers.top with client } } }
  refine ⟨_, ?_, left, (World.hub_editHub_same Hub.locked rfl h).trans unlocked⟩
  show Run.onFirst (Action.bindClient h client) (w, own) = _
  rw [Run.onFirst, bound]

theorem add_retops (inside : h < w.hubs.length) (unlocked : (w.hub h).locked = false)
    (make : σ → List Breadcrumb × σ) (own : σ) :
    let top := (w.hub h).layers.top
    let r := (TrailStep.add make).admits w.clients top.client own
    ∃ w₁, (TrailStep.add make).perform h (w, own) = (.done (), w₁, r.2.2) ∧
      Retopped h ⟨r.2.1, top.scope.addAll r.1⟩ w w₁ ∧ (w₁.hub h).locked = false := by
  intro top r
  let lock (hub : Hub) : Hub := { hub with locked := true }
  have same : ((w.editHub h lock).hub h).layers = (w.hub h).layers :=
    World.hub_editHub_same Hub.layers rfl h
  cases wanted : top.client.bind fun c => w.clients[c]? with
  | none =>
    have nothing : r = ([], top.client, own) := by
      simp only [r, TrailStep.admits, wanted]
    -- nobody wants the breadcrumbs: only the lock comes and goes
    rw [nothing]
    refine whileLocked_retops unlocked ?_ (Retopped.editHub inside lock)
    show Run.bind Run.get.onFirst _ (w.editHub h lock, own) = _
    simp only [Run.bind, Run.onFirst, Run.get, same]
    cases bound : (w.hub h).layers.top.client with
    | none => rfl
    | some c =>
      have gone : (w.editHub h lock).clients[c]? = none :=
        Option.bind_eq_none_iff.mp wanted c bound
      simp only [gone]
      rfl
  | some client =>
    obtain ⟨c, bound, found⟩ := Option.bind_eq_some_iff.mp wanted
    have added : r = (client.options.letThrough (make own).1, top.client, (make own).2) := by
      simp only [r, TrailStep.admits, wanted]
    rw [added, ← addBreadcrumbsTo_eq]
    refine whileLocked_retops unlocked ?_ (Retopped.editScope_locked inside _)
    have there : (w.editHub h lock).clients[c]? = some client := found
    show Run.bind Run.get.onFirst _ (w.editHub h lock, own) = _
    simp only [Run.bind, Run.onFirst, Run.get, same, top] at bound ⊢
    simp only [bound, there]
    rfl

/-- A step leaves the scope of its hub with the breadcrumbs that it lets through. -/
theorem TrailStep.perform_retops (inside : h < w.hubs.length)
    (unlocked : (w.hub h).locked = false) (step : TrailStep σ) (own : σ) :
    let top := (w.hub h).layers.top
    let r := step.admits w.clients top.client own
    ∃ w₁, step.perform h (w, own) = (.done (), w₁, r.2.2) ∧
      Retopped h ⟨r.2.1, top.scope.addAll r.1⟩ w w₁ ∧ (w₁.hub h).locked = false := by
  cases step with
  | bindClient client => exact bindClient_retops inside unlocked client own
  | add make => exact add_retops inside unlocked make own

theorem forM_perform (steps : List (TrailStep σ)) (inside : h < w.hubs.length)
    (unlocked : (w.hub h).locked = false) (own : σ) :
    let top := (w.hub h).layers.top
    ∃ w₁ own₁, steps.forM (TrailStep.perform h) (w, own) = (.done (), w₁, own₁) ∧
      (w₁.hub h).layers.top.scope =
        top.scope.addAll (admitted w.clients top.client own steps) := by
  induction steps generalizing w own with
  | nil => exact ⟨w, own, rfl, rfl⟩
  | cons step steps ih =>
    obtain ⟨w₁, ran, left, free⟩ := step.perform_retops inside unlocked own
    obtain ⟨w₂, own₂, ran₂, scope₂⟩ := ih left.inside free (step.admits w.clients _ own).2.2
    refine ⟨w₂, own₂, (bind_ran ran).trans ran₂, ?_⟩
    rw [scope₂, left.top, left.clients, admitted, Scope.addAll_append]

/-- The breadcrumbs of a scope since it had none, and those of a hub, whose client may change. -/
theorem newest_kept :
    (∀ (s : Scope) (crumbs : List (Breadcrumb × Nat)),
      s.addAll crumbs = s.addAll (Scope.roomy crumbs) ∧
        (s.clearBreadcrumbs.addAll crumbs).breadcrumbs =
          ((Scope.roomy crumbs).map Prod.fst).rtake (Scope.keptCount (Scope.roomy crumbs))) ∧
    (∀ (s : Scope) (limit : Nat) (crumbs : List Breadcrumb),
      (s.clearBreadcrumbs.addAll (crumbs.map fun b => (b, limit))).breadcrumbs =
        crumbs.rtake (min crumbs.length limit)) ∧
    ∀ (h : HubId) (w : World) (steps : List (TrailStep σ)) (own : σ), h < w.hubs.length →
      (w.hub h).locked = false →
      let top := (w.hub h).layers.top
      let crumbs := admitted w.clients top.client own steps
      ∃ w' own', (discard (clearBreadcrumbs h) >>= fun _ => steps.forM (TrailStep.perform h))
          (w, own) = (.done (), w', own') ∧
        (w'.hub h).layers.top.scope = top.scope.clearBreadcrumbs.addAll crumbs ∧
        (w'.hub h).layers.top.scope.breadcrumbs =
          ((Scope.roomy crumbs).map Prod.fst).rtake (Scope.keptCount (Scope.roomy crumbs)) := by
  refine ⟨fun s crumbs => ⟨Scope.addAll_roomy crumbs s, Scope.breadcrumbs_addAll rfl crumbs⟩,
    fun s => Scope.breadcrumbs_addAll_const rfl, fun h w steps own inside unlocked => ?_⟩
  obtain ⟨w₁, cleared, left, free⟩ := clearBreadcrumbs_retops inside unlocked own
  obtain ⟨w₂, own₂, ran, scope⟩ := forM_perform steps left.inside free own
  rw [left.top, left.clients] at scope
  have forgot : (discard (clearBreadcrumbs h) : Program σ Unit) (w, own) = (.done (), w₁, own) :=
    bind_ran (f := fun _ => pure ()) cleared
  refine ⟨w₂, own₂, (bind_ran forgot).trans ran, scope, ?_⟩
  rw [scope]
  exact Scope.breadcrumbs_addAll rfl _

/-- A client with room for two drops one of four breadcrumbs and changes the others. Under a client
with room for three the scope grows again, and without a client nothing is added. -/
theorem newest_kept_rebound :
    let crumb (level : Level) : Breadcrumb := { Breadcrumb.make none .epoch with level }
    let strict : Settings :=
      { logging none with
        maxBreadcrumbs := 2
        beforeBreadcrumb := some fun b =>
          if b.level = .debug then none else some { b with category := some "seen" } }
    let w : World :=
      { World.single (plain strict) asleep with
        clients := [plain strict, plain { logging none with maxBreadcrumbs := 3 }] }
    let add (levels : List Level) : TrailStep Unit := .add fun own => (levels.map crumb, own)
    let steps : List (TrailStep Unit) :=
      [add [.info, .warning, .debug, .error], .bindClient (some 1), add [.debug], .bindClient none,
        add [.info]]
    0 < w.hubs.length ∧ (w.hub 0).locked = false ∧
      ∃ w' own', (discard (clearBreadcrumbs 0) >>= fun _ => steps.forM (TrailStep.perform 0))
          (w, ()) = (.done (), w', own') ∧
        (w'.hub 0).layers.top.scope.breadcrumbs =
          [{ crumb .warning with category := some "seen" },
            { crumb .error with category := some "seen" }, crumb .debug] := by
  intro crumb strict w add steps
  obtain ⟨w', own', ran, -, kept⟩ := newest_kept.2.2 0 w steps () Nat.zero_lt_one rfl
  have passed : admitted w.clients (w.hub 0).layers.top.client () steps =
      [({ crumb .info with category := some "seen" }, 2),
        ({ crumb .warning with category := some "seen" }, 2),
        ({ crumb .error with category := some "seen" }, 2), (crumb .debug, 3)] := rfl
  rw [passed] at kept
  exact ⟨Nat.zero_lt_one, rfl, w', own', ran, kept.trans rfl⟩

end Program

end Telemetry
