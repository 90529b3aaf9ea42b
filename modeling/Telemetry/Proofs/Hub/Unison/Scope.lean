import Telemetry.Proofs.Hub.Unison.Capture

/-! What a task does with the layers of its hubs in two worlds at once: it edits scopes while nobody
else gets at them, and puts layers on top and takes them away again. -/

namespace Telemetry

open Run

variable {ρ α β : Type} {g : Bench} {o o' lock : Option HubId} {l l' : Locals ρ} {h h' : HubId}
  {v : View}

namespace Layers

variable {s s' : Layers}

theorem seen_below (same : s.seen v = s'.seen v) :
    s.below.map (Layer.seen v) = s'.below.map (Layer.seen v) :=
  congrArg Layers.below same

theorem seen_editScope {f f' : Scope → Scope} (same : s.seen v = s'.seen v)
    (edited : (f s.top.scope).seen v = (f' s'.top.scope).seen v) :
    (s.editScope f).seen v = (s'.editScope f').seen v := by
  have client : s.top.client = s'.top.client :=
    (congrArg (fun x : Layers => x.top.client) same :)
  have below := seen_below same
  show Layers.mk ⟨s.top.client, (f s.top.scope).seen v⟩ (s.below.map (Layer.seen v)) =
    Layers.mk ⟨s'.top.client, (f' s'.top.scope).seen v⟩ (s'.below.map (Layer.seen v))
  rw [client, below, edited]

theorem seen_push (same : s.seen v = s'.seen v) : s.push.seen v = s'.push.seen v := by
  have top : s.top.seen v = s'.top.seen v := (congrArg Layers.top same :)
  have below := seen_below same
  show Layers.mk (s.top.seen v) (s.top.seen v :: s.below.map (Layer.seen v)) =
    Layers.mk (s'.top.seen v) (s'.top.seen v :: s'.below.map (Layer.seen v))
  rw [top, below]

theorem seen_pop? (same : s.seen v = s'.seen v) :
    Option.Rel (fun t t' => t.seen v = t'.seen v) s.pop? s'.pop? := by
  have below := seen_below same
  unfold pop?
  generalize s.below = xs at below
  generalize s'.below = xs' at below
  cases xs with
  | nil =>
    cases xs' with
    | nil => exact .none
    | cons => simp at below
  | cons x xs =>
    cases xs' with
    | nil => simp at below
    | cons x' xs' =>
      obtain ⟨top, rest⟩ := List.cons.inj below
      refine .some ?_
      show Layers.mk (x.seen v) (xs.map (Layer.seen v)) = Layers.mk (x'.seen v) _
      rw [top, rest]

theorem depth_eq (same : s.seen v = s'.seen v) : s.depth = s'.depth := by
  have below := seen_below same
  simpa [depth] using congrArg List.length below

variable {K : ClientId → Prop}

theorem Fit.push (fit : s.Fit K v) : s.push.Fit K v := by
  have old : ∀ x ∈ s.push.toList, x ∈ s.toList := by
    simp [Layers.push, toList]
  exact ⟨fun x hx => fit.clients x (old x hx), fun x hx => fit.blind x (old x hx)⟩

theorem Fit.pop? (fit : s.Fit K v) {t : Layers} (popped : s.pop? = some t) : t.Fit K v := by
  have old : ∀ x ∈ t.toList, x ∈ s.toList := by
    unfold Layers.pop? at popped
    split at popped
    · cases popped
    · next below =>
      cases popped
      intro x hx
      rw [toList, below]
      exact List.mem_cons_of_mem _ hx
  exact ⟨fun x hx => fit.clients x (old x hx), fun x hx => fit.blind x (old x hx)⟩

theorem Fit.editScope (fit : s.Fit K v) {f : Scope → Scope} (blind : (f s.top.scope).Blind v) :
    (s.editScope f).Fit K v := by
  constructor
  · intro x hx
    rcases List.mem_cons.mp hx with rfl | below
    · exact fit.clients s.top List.mem_cons_self
    · exact fit.clients x (List.mem_cons_of_mem _ below)
  · intro x hx
    rcases List.mem_cons.mp hx with rfl | below
    · exact blind
    · exact fit.blind x (List.mem_cons_of_mem _ below)

end Layers

namespace Action

/-! ### Layers -/

theorem calmly_pushScope (pair : Paired l l' h h') :
    Calmly g o o' none l l' (fun x x' => x.depth = x'.depth ∧ Paired l l' x.hub x'.hub)
      (pushScope h) (pushScope h') :=
  calmly_editLayers pair (by simp) fun _ _ same fit =>
    ⟨⟨Layers.depth_eq (Layers.seen_push same), pair⟩, Layers.seen_push same, fit.push⟩

theorem calmly_popScope (pair : Paired l l' h h') :
    Calmly g o o' none l l' Eq (popScope h) (popScope h') := by
  refine (calmly_editLayers (R := Eq) pair (by simp) fun s s' same fit => ?_).andThen ?_
  · have popped := Layers.seen_pop? same
    generalize left : s.pop? = t at popped
    generalize s'.pop? = t' at popped
    cases popped with
    | none => exact ⟨rfl, same, fit⟩
    | some same => exact ⟨rfl, same, fit.pop? left⟩
  · rintro popped _ rfl
    cases popped with
    | true => exact .pure rfl
    | false => exact calmly_tell _ _

theorem calmly_dropGuard {x x' : ScopeGuard} (depth : x.depth = x'.depth)
    (pair : Paired l l' x.hub x'.hub) : Calmly g o o' none l l' Eq x.drop x'.drop := by
  refine (calmly_editLayers (R := Eq) pair (by simp) fun s s' same fit => ?_).andThen ?_
  · have popped := Layers.seen_pop? same
    rw [Layers.depth_eq same, depth]
    refine ⟨rfl, ?_⟩
    split
    · generalize left : s.pop? = t at popped
      generalize s'.pop? = t' at popped
      cases popped with
      | none => exact ⟨same, fit⟩
      | some same => exact ⟨same, fit.pop? left⟩
    · exact ⟨same, fit⟩
  · rintro d _ rfl
    rw [depth]
    split
    · exact calmly_tell _ _
    · exact .pure rfl

/-- A scope is edited by whoever has its hub to itself. -/
theorem calmly_editScope (pair : Paired l l' h h') {f f' : Scope → Scope}
    (alike : ∀ s s' : Scope, s.seen g.view = s'.seen g.view → s.Blind g.view →
      (f s).seen g.view = (f' s').seen g.view ∧ (f s).Blind g.view) :
    Calmly g o o' lock l l' Eq (editScope h f) (editScope h' f') :=
  Lead.modify fun w w' linked => by
    obtain ⟨seen, fit, locked⟩ := linked.tie.hubs h h' pair
    have layers : (w.hub h).layers.seen g.view = (w'.hub h').layers.seen g.view :=
      (congrArg Hub.layers seen :)
    have held : (w.hub h).locked = (w'.hub h').locked := (congrArg Hub.locked seen :)
    have scope : (w.hub h).layers.top.scope.seen g.view = (w'.hub h').layers.top.scope.seen g.view :=
      (congrArg (fun x : Hub => x.layers.top.scope) seen :)
    obtain ⟨edited, blind⟩ := alike _ _ scope (fit.blind _ List.mem_cons_self)
    refine linked.editHubs pair ?_ (fit.editScope blind) locked fun _ _ => Iff.rfl
    show Hub.mk (Layers.seen _ _) none _ = Hub.mk (Layers.seen _ _) none _
    rw [Layers.seen_editScope layers edited, held]

theorem lead_setLocked (pair : Paired l l' h h') (lock' : Option HubId) {on : Bool}
    (switched : on = true ↔ lock' = some h)
    (others : ∀ j, j ≠ h → (lock = some j ↔ lock' = some j)) :
    Lead (Linked g o o' lock l l') (Linked g o o' lock' l l') Eq (setLocked h on)
      (setLocked h' on) :=
  Lead.modify fun w w' linked => by
    obtain ⟨seen, fit, -⟩ := linked.tie.hubs h h' pair
    have layers : (w.hub h).layers.seen g.view = (w'.hub h').layers.seen g.view :=
      (congrArg Hub.layers seen :)
    refine linked.editHubs pair ?_ fit switched others
    show Hub.mk ((w.hub h).layers.seen g.view) none on = Hub.mk _ none on
    rw [layers]

end Action

/-! ### Programs -/

namespace Program

open Telemetry.Action

/-- What the task has in the two worlds is `l` and `l'`. -/
def At (g : Bench) (o o' lock : Option HubId) (l l' : Locals ρ) (s s' : World × Locals ρ) : Prop :=
  s.2 = l ∧ s'.2 = l' ∧ Linked g o o' lock l l' s.1 s'.1

/-- What the task has in the two worlds has grown out of `l` and `l'`. -/
def From (g : Bench) (o o' : Option HubId) (l l' : Locals ρ) (s s' : World × Locals ρ) : Prop :=
  l.hubs <+: s.2.hubs ∧ l'.hubs <+: s'.2.hubs ∧ Linked g o o' none s.2 s'.2 s.1 s'.1

theorem From.of_at {s s' : World × Locals ρ} (h : At g o o' none l l' s s') :
    From g o o' l l' s s' := by
  obtain ⟨rfl, rfl, linked⟩ := h
  exact ⟨List.prefix_rfl, List.prefix_rfl, linked⟩

theorem match_at {R : α → β → Prop} {x : Action α} {y : Action β}
    (h : Unison g o o' lock l l' R x y) :
    Match (At g o o' lock l l') (At g o o' lock l l') R (Run.onFirst x) (Run.onFirst y) :=
  Match.onFirst fun _ _ w w' ⟨left, right, linked⟩ =>
    (h w w' linked).mono fun _ _ linked => ⟨left, right, linked⟩

theorem lead_at {a a' lock' : Option HubId} {R : α → β → Prop} {x : Action α} {y : Action β}
    (h : Lead (Linked g o o' lock l l') (Linked g a a' lock' l l') R x y) :
    Lead (At g o o' lock l l') (At g a a' lock' l l') R (Run.onFirst x) (Run.onFirst y) :=
  Lead.onFirst fun _ _ w w' ⟨left, right, linked⟩ => by
    obtain ⟨a, b, u, u', first, second, result, linked⟩ := h w w' linked
    exact ⟨a, b, u, u', first, second, result, left, right, linked⟩

theorem lead_from {R : α → β → Prop} {x : Action α} {y : Action β}
    (h : ∀ m m' : Locals ρ, l.hubs <+: m.hubs → l'.hubs <+: m'.hubs →
      Calmly g o o' none m m' R x y) :
    Lead (From g o o' l l') (From g o o' l l') R (Run.onFirst x) (Run.onFirst y) :=
  Lead.onFirst fun m m' w w' ⟨left, right, linked⟩ => by
    obtain ⟨a, b, u, u', first, second, result, linked⟩ := h m m' left right w w' linked
    exact ⟨a, b, u, u', first, second, result, left, right, linked⟩

theorem match_from {R : α → β → Prop} {x : Program (Locals ρ) α} {y : Program (Locals ρ) β}
    (h : ∀ m m' : Locals ρ, l.hubs <+: m.hubs → l'.hubs <+: m'.hubs →
      Match (At g o o' none m m') (From g o o' m m') R x y) :
    Match (From g o o' l l') (From g o o' l l') R x y := by
  intro s s' ⟨left, right, linked⟩
  exact (h s.2 s'.2 left right s s' ⟨rfl, rfl, linked⟩).mono fun t t' ⟨left', right', linked⟩ =>
    ⟨left.trans left', right.trans right', linked⟩

theorem match_whileLocked {R : α → β → Prop} {x : Program (Locals ρ) α} {y : Program (Locals ρ) β}
    (pair : Paired l l' h h')
    (inner : Match (At g o o' (some h) l l') (At g o o' (some h) l l') R x y) :
    Match (At g o o' none l l') (At g o o' none l l') R (whileLocked h x) (whileLocked h' y) := by
  have read : Calmly g o o' none l l' (fun _ _ => True) (layers h) (layers h') := by
    intro w w' linked
    obtain ⟨left, right⟩ := Linked.unlocked linked pair (by simp)
    exact ⟨_, _, _, _, layers_eq left, layers_eq right, trivial, linked⟩
  refine Lead.bind (R := fun _ _ => True) ((lead_at read).andThen fun _ _ _ => .pure trivial) ?_
  intro _ _ _
  refine (lead_at (lead_setLocked pair (some h) (by simp) ?_)).bind fun _ _ _ => ?_
  · exact fun j ne => by simp [Ne.symm ne]
  · refine inner.after (lead_at (lead_setLocked pair none (by simp) ?_))
    exact fun j ne => by simp [Ne.symm ne]

section

variable (fair : g.Fair) (home : Homed l l' o o') {t t' : Target} (aim : Aimed l l' none t t')
include fair home aim

theorem match_configureScope {R : α → β → Prop} {x : HubId → Program (Locals ρ) α}
    {y : HubId → Program (Locals ρ) β}
    (inner : ∀ i i', Paired l l' i i' →
      Match (At g o o' (some i) l l') (At g o o' (some i) l l') R (x i) (y i')) :
    Match (At g o o' none l l') (At g o o' none l l') (Option.Rel R) (configureScope t x)
      (configureScope t' y) := by
  refine (lead_at (calmly_find? fair home aim)).bind fun i i' found => ?_
  cases found with
  | none => exact .pure .none
  | some both =>
    exact (match_whileLocked both.1 (inner _ _ both.1)).bind fun _ _ result =>
      .pure (.some result)

theorem match_withScope {R : α → β → Prop} {x : HubId → Program (Locals ρ) Unit}
    {y : HubId → Program (Locals ρ) Unit} {body : Program (Locals ρ) α}
    {body' : Program (Locals ρ) β}
    (edits : ∀ i i', Paired l l' i i' →
      Match (At g o o' (some i) l l') (At g o o' (some i) l l') Eq (x i) (y i'))
    (inner : Match (At g o o' none l l') (From g o o' l l') R body body') :
    Match (At g o o' none l l') (From g o o' l l') R (withScope t x body)
      (withScope t' y body') := by
  refine (lead_at (calmly_find? fair home aim)).bind fun i i' found => ?_
  cases found with
  | none => exact inner
  | some both =>
    refine (lead_at (calmly_pushScope both.1)).bind fun x x' ⟨depth, pair⟩ => ?_
    refine Match.after ?_ (lead_from fun m m' grown grown' =>
      calmly_dropGuard depth (pair.grow grown grown'))
    exact (match_whileLocked both.1 (edits _ _ both.1)).follow (fun _ _ => From.of_at)
      fun _ _ _ => inner

end

/-! ### Breadcrumbs -/

/-- A breadcrumb is added, or the callback of the client drops it. -/
theorem addBreadcrumbsTo_single (x : Settings) (b : Breadcrumb) (s : Scope) :
    addBreadcrumbsTo x [b] s =
      (match x.beforeBreadcrumb.elim (some b) fun f => f b with
        | some b => s.addBreadcrumb b x.maxBreadcrumbs
        | none => s) := by
  unfold addBreadcrumbsTo
  cases x.beforeBreadcrumb <;> rfl

theorem processors_addBreadcrumb (s : Scope) (b : Breadcrumb) (limit : Nat) :
    (s.addBreadcrumb b limit).processors = s.processors := by
  unfold Scope.addBreadcrumb
  split <;> rfl

theorem seen_addBreadcrumbsTo_single {c : Client} (blind : c.Blind v) {b b' : Breadcrumb}
    (alike : b.seen v = b'.seen v) {s s' : Scope} (same : s.seen v = s'.seen v)
    (processors : s.Blind v) :
    (addBreadcrumbsTo c.options.toSettings [b] s).seen v =
        (addBreadcrumbsTo c.options.toSettings [b'] s').seen v ∧
      (addBreadcrumbsTo c.options.toSettings [b] s).Blind v := by
  have kept : (c.options.beforeBreadcrumb.elim (some b) fun f => f b).map (Breadcrumb.seen v) =
      (c.options.beforeBreadcrumb.elim (some b') fun f => f b').map (Breadcrumb.seen v) := by
    cases callback : c.options.beforeBreadcrumb with
    | none => exact congrArg some alike
    | some f => exact blind.beforeBreadcrumb f callback b b' alike
  rw [addBreadcrumbsTo_single, addBreadcrumbsTo_single]
  generalize (c.options.beforeBreadcrumb.elim (some b) fun f => f b) = x at kept
  generalize (c.options.beforeBreadcrumb.elim (some b') fun f => f b') = x' at kept
  cases x with
  | none =>
    cases x' with
    | none => exact ⟨same, processors⟩
    | some => cases kept
  | some d =>
    cases x' with
    | none => cases kept
    | some d' =>
      dsimp only
      rw [Scope.seen_addBreadcrumb, Scope.seen_addBreadcrumb, same, Option.some.inj kept]
      refine ⟨rfl, fun f hf => processors f ?_⟩
      rwa [processors_addBreadcrumb] at hf

theorem seen_addBreadcrumbsTo {c : Client} (blind : c.Blind v) {bs bs' : List Breadcrumb}
    (alike : bs.map (Breadcrumb.seen v) = bs'.map (Breadcrumb.seen v)) {s s' : Scope}
    (same : s.seen v = s'.seen v) (processors : s.Blind v) :
    (addBreadcrumbsTo c.options.toSettings bs s).seen v =
        (addBreadcrumbsTo c.options.toSettings bs' s').seen v ∧
      (addBreadcrumbsTo c.options.toSettings bs s).Blind v := by
  induction bs generalizing bs' s s' with
  | nil =>
    cases bs' with
    | nil => exact ⟨same, processors⟩
    | cons => simp at alike
  | cons b bs ih =>
    cases bs' with
    | nil => simp at alike
    | cons b' bs' =>
      obtain ⟨first, rest⟩ := List.cons.inj alike
      obtain ⟨added, still⟩ := seen_addBreadcrumbsTo_single blind first same processors
      exact ih rest added still

theorem match_addBreadcrumbs (fair : g.Fair) (home : Homed l l' o o') {t t' : Target}
    (aim : Aimed l l' none t t') {make make' : Action (List Breadcrumb)}
    (made : ∀ lock, Unison g o o' lock l l'
      (fun bs bs' => bs.map (Breadcrumb.seen g.view) = bs'.map (Breadcrumb.seen g.view)) make
      make') :
    Match (At g o o' none l l') (At g o o' none l l') Eq
      (addBreadcrumbs t (Run.onFirst make : Program (Locals ρ) (List Breadcrumb)))
      (addBreadcrumbs t' (Run.onFirst make')) := by
  refine (lead_at (calmly_find? fair home aim)).bind fun i i' found => ?_
  cases found with
  | none => exact .pure rfl
  | @some i i' both =>
    refine match_whileLocked both.1 ?_
    refine (lead_at Lead.get).bind fun w w' linked => ?_
    obtain ⟨seen, fit, -⟩ := linked.tie.hubs i i' both.1
    have client : (w.hub i).layers.top.client = (w'.hub i').layers.top.client :=
      (congrArg (fun x : Hub => x.layers.top.client) seen :)
    rw [← client]
    cases bound : (w.hub i).layers.top.client with
    | none => exact .pure rfl
    | some k =>
      have twin := linked.twin fair (fit.clients _ List.mem_cons_self k bound)
      dsimp only
      generalize w.clients[k]? = c at twin
      generalize w'.clients[k]? = c' at twin
      cases twin with
      | none => exact .pure rfl
      | @some c c' twin =>
        refine (match_at (made _)).bind fun bs bs' alike => ?_
        rw [← twin.frame.options]
        exact (lead_at (calmly_editScope both.1 fun s s' same blind =>
          seen_addBreadcrumbsTo twin.blind alike same blind)).toMatch

end Program

end Telemetry
