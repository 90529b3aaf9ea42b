import Telemetry.Proofs.Hub.Unison.Scope

/-! The code of a task in two worlds at once. Whatever it does, what it has goes on looking alike. -/

namespace Telemetry

open Run

variable {ρ α β : Type} {g : Bench} {o o' lock : Option HubId} {l l' : Locals ρ} {h h' : HubId}

/-! ### Switches -/

namespace Switch

open Telemetry.Action

/-- A switch that was made in a hub brings a binding back. -/
def Restores (x : Switch) (h : HubId) (o : Option HubId) : Prop :=
  x.previous = some o ∨ x.previous = none ∧ o = some h

theorem new_eq (h : HubId) (w : World) :
    ∃ x : Switch, x.Restores h w.thread.bound ∧
      Switch.new h w = (.done x, { w with thread := { w.thread with bound := some h } }) := by
  have entered : Switch.new h w =
      (if w.thread.bound = some h then return ⟨none⟩
        else do
          editThread fun t => { t with bound := some h }
          return ⟨some w.thread.bound⟩ : Action Switch) w := rfl
  rw [entered]
  by_cases same : w.thread.bound = some h
  · refine ⟨⟨none⟩, .inr ⟨rfl, same⟩, ?_⟩
    rw [if_pos same, ← same]
    rfl
  · refine ⟨⟨some w.thread.bound⟩, .inl rfl, ?_⟩
    rw [if_neg same]
    rfl

theorem drop_eq {x : Switch} {w : World} (restores : x.Restores h o)
    (bound : w.thread.bound = some h) :
    x.drop w = (.done (), { w with thread := { w.thread with bound := o } }) := by
  obtain ⟨previous⟩ := x
  rcases restores with rfl | ⟨rfl, rfl⟩
  · rfl
  · rw [← bound]
    rfl

end Switch

namespace Program

open Telemetry.Action

/-- Code runs in a hub of the task, and the binding is what it was, however that ends. -/
theorem match_runIn {R : α → β → Prop} {x : Program (Locals ρ) α} {y : Program (Locals ρ) β}
    (inner : Match (At g (some h) (some h') none l l') (From g (some h) (some h') l l') R x y) :
    Match (At g o o' none l l') (From g o o' l l') R (runIn h x) (runIn h' y) := by
  have opened : Lead (At g o o' none l l') (At g (some h) (some h') none l l')
      (fun s s' => s.Restores h o ∧ s'.Restores h' o') (Run.onFirst (Switch.new h))
      (Run.onFirst (Switch.new h')) := lead_at fun w w' linked => by
    obtain ⟨s, restores, left⟩ := Switch.new_eq h w
    obtain ⟨s', restores', right⟩ := Switch.new_eq h' w'
    rw [linked.left.bound] at restores
    rw [linked.right.bound] at restores'
    exact ⟨s, s', _, _, left, right, ⟨restores, restores'⟩, linked.rebound _ _⟩
  refine opened.bind fun s s' ⟨restores, restores'⟩ => inner.after ?_
  refine Lead.onFirst fun m m' w w' ⟨grown, grown', linked⟩ => ?_
  exact ⟨_, _, _, _, Switch.drop_eq restores linked.left.bound,
    Switch.drop_eq restores' linked.right.bound, rfl, grown, grown', linked.rebound o o'⟩

end Program

/-! ### Code -/

theorem Action.Homed.grow {m m' : Locals ρ} (home : Homed l l' o o') (grown : l.hubs <+: m.hubs)
    (grown' : l'.hubs <+: m'.hubs) : Homed m m' o o' := by
  obtain ⟨h, h', left, right, pair⟩ := home
  exact ⟨h, h', left, right, pair.grow grown grown'⟩

namespace Code

open Telemetry.Action Telemetry.Program

theorem aimed_target (same : l.Same l') (t : Place) :
    Aimed l l' none (l.target t) (l'.target t) := by
  cases t with
  | active => exact .active
  | own i =>
    unfold Locals.target
    cases left : l.hubs[i]? with
    | none =>
      have right : l'.hubs[i]? = none := by
        rwa [List.getElem?_eq_none_iff, ← same.length, ← List.getElem?_eq_none_iff]
      simp only [left, right]
      exact .active
    | some h =>
      obtain ⟨inside, -⟩ := List.getElem?_eq_some_iff.mp left
      have right := List.getElem?_eq_getElem (same.length ▸ inside)
      simp only [left, right]
      exact .hub ⟨i, left, right⟩ nofun

theorem rel_getElem? {R : α → β → Prop} {xs : List α} {ys : List β} (h : List.Forall₂ R xs ys)
    (i : Nat) : Option.Rel R xs[i]? ys[i]? := by
  induction h generalizing i with
  | nil => exact .none
  | cons first _ ih =>
    cases i with
    | zero => exact .some first
    | succ i => exact ih i

theorem lead_locals :
    Lead (At g o o' none l l') (At g o o' none l l') (fun a a' => a = l ∧ a' = l' ∧ l.Same l') locals
      locals := by
  rintro s s' ⟨left, right, linked⟩
  exact ⟨_, _, s, s', rfl, rfl, ⟨left, right, linked.tie.toSame⟩, left, right, linked⟩

/-- What a task keeps changes, but its hubs stay. -/
theorem lead_editLocals {f f' : Locals ρ → Locals ρ} (hubs : (f l).hubs = l.hubs)
    (hubs' : (f' l').hubs = l'.hubs)
    (edited : ∀ w w', Linked g o o' none l l' w w' → Linked g o o' none (f l) (f' l') w w') :
    Lead (At g o o' none l l') (From g o o' l l') Eq (editLocals f) (editLocals f') :=
  Lead.modify fun s s' ⟨left, right, linked⟩ => by
    subst left right
    refine ⟨?_, ?_, edited _ _ linked⟩
    · exact hubs ▸ List.prefix_rfl
    · exact hubs' ▸ List.prefix_rfl

theorem forkOwn_eq {t : Place} {s : World × Locals ρ} {w : World}
    (resolved : (s.2.target t).resolve s.1 = (.done h, w)) (unlocked : (w.hub h).locked = false) :
    forkOwn t s = (.done (),
      { w with hubs := w.hubs ++ [.new (w.hub h).layers.top.client (w.hub h).layers.top.scope] },
      { s.2 with hubs := s.2.hubs ++ [w.hubs.length] }) := by
  have forked : (do forkHub (← (s.2.target t).resolve) : Action HubId) s.1 = _ :=
    (bind_done resolved).trans (forkHub_eq unlocked)
  show Run.bind (Run.onFirst (do forkHub (← (s.2.target t).resolve) : Action HubId)) _ s = _
  simp only [Run.bind, Run.onFirst, forked]
  rfl

/-- A hub that is made out of the top layer of another one looks like the same layer. -/
theorem lead_forkOwn (home : Homed l l' o o') (t : Place) :
    Lead (At g o o' none l l') (From g o o' l l') Eq (forkOwn t) (forkOwn t) := by
  rintro s s' ⟨rfl, rfl, linked⟩
  obtain ⟨i, i', w, w', left, right, pair, linked⟩ :=
    calmly_resolve home (aimed_target linked.tie.toSame t) s.1 s'.1 linked
  obtain ⟨free, free'⟩ := Linked.unlocked linked pair (by simp)
  obtain ⟨seen, fit, -⟩ := linked.tie.hubs i i' pair
  have top : (w.hub i).layers.top.seen g.view = (w'.hub i').layers.top.seen g.view :=
    (congrArg (fun x : Hub => x.layers.top) seen :)
  refine ⟨(), (), _, _, forkOwn_eq left free, forkOwn_eq right free', rfl, List.prefix_append ..,
    List.prefix_append .., linked.addHubs ?_ ?_ rfl⟩
  · show Hub.mk (Layers.mk ((w.hub i).layers.top.seen g.view) []) none false = _
    rw [top]
    rfl
  · constructor
    · intro x hx
      rw [List.mem_singleton.mp hx]
      exact fit.clients _ List.mem_cons_self
    · intro x hx
      rw [List.mem_singleton.mp hx]
      exact fit.blind _ List.mem_cons_self

theorem unison_orPanic (fair : g.Fair) (home : Homed l l' o o') (fails : Option Payload)
    {R : α → β → Prop} {a : α} {b : β} (result : R a b) :
    Unison g o o' lock l l' R (orPanic fails a) (orPanic fails b) := by
  cases fails with
  | none => exact .pure result
  | some p => exact unison_panic fair home p

theorem match_editOrPanic (fair : g.Fair) (home : Homed l l' o o') {edit : Scope → Scope}
    (blind : Blind.BlindEdit g.view edit) (fails : Option Payload) {i i' : HubId}
    (pair : Paired l l' i i') :
    Match (At g o o' lock l l') (At g o o' lock l l') Eq (editOrPanic edit fails i)
      (editOrPanic edit fails i') := by
  refine match_at ?_
  refine (calmly_editScope pair fun s s' same fit => ?_).bind fun _ _ _ =>
    unison_orPanic fair home fails rfl
  exact ⟨blind.1 s s' same, blind.2 s fit⟩

/-- Code does alike things in worlds that belong together. -/
theorem match_exec (fair : g.Fair) (code : Code ρ) (blind : code.Blind g.view)
    {o o' : Option HubId} {l l' : Locals ρ} (home : Homed l l' o o') :
    Match (At g o o' none l l') (From g o o' l l') Eq code.exec code.exec := by
  -- a body may leave the task with more hubs, so what follows starts from what there is by then
  have goOn {x : Program (Locals ρ) Unit} {o o' : Option HubId} {l l' : Locals ρ}
      (home : Homed l l' o o')
      (next : ∀ {m m' : Locals ρ}, Homed m m' o o' →
        Match (At g o o' none m m') (From g o o' m m') Eq x x) :
      Match (From g o o' l l') (From g o o' l l') Eq x x :=
    match_from fun m m' grown grown' => next (home.grow grown grown')
  have still {s s' : World × Locals ρ} {o o' : Option HubId} {l l' : Locals ρ} :
    At g o o' none l l' s s' → From g o o' l l' s s' := From.of_at
  induction code generalizing o o' l l' with
  | stop => exact (Match.pure rfl).mono fun _ _ => still
  | panic p => exact (match_at (unison_panic fair home p)).mono fun _ _ => still
  | panicAgain p => exact (match_at (.unwind p)).mono fun _ _ => still
  | read next ih =>
    refine lead_locals.bind ?_
    rintro m m' ⟨rfl, rfl, same⟩
    rw [same.kept]
    exact ih _ (blind _) home
  | keep r next ih =>
    refine (lead_editLocals rfl rfl fun _ _ linked => linked.setKept r).bind fun _ _ _ => ?_
    exact goOn home fun home => ih blind home
  | configure t edit fails next ih =>
    refine lead_locals.bind ?_
    rintro m m' ⟨rfl, rfl, same⟩
    refine Match.follow (R := fun _ _ => True) ?_ (fun _ _ => still) fun _ _ _ => ih blind.2 home
    exact (match_configureScope fair home (aimed_target same t) fun i i' pair =>
      match_editOrPanic fair home blind.1 fails pair).bind fun _ _ _ => .pure trivial
  | push t next ih =>
    refine lead_locals.bind ?_
    rintro m m' ⟨rfl, rfl, same⟩
    refine (lead_at ((calmly_resolve home (aimed_target same t)).andThen fun i i' pair =>
      calmly_pushScope pair)).bind fun x x' both => ?_
    refine (lead_editLocals rfl rfl fun _ _ linked => linked.setGuards
      (List.rel_append linked.tie.guards (.cons both .nil))).bind fun _ _ _ => ?_
    exact goOn home fun home => ih blind home
  | drop i next ih =>
    refine lead_locals.bind ?_
    rintro m m' ⟨rfl, rfl, same⟩
    have guard := rel_getElem? same.guards i
    generalize m.guards[i]? = x at guard
    generalize m'.guards[i]? = x' at guard
    cases guard with
    | none => exact ih blind home
    | some both => exact (lead_at (calmly_dropGuard both.1 both.2)).bind fun _ _ _ => ih blind home
  | pop t next ih =>
    refine lead_locals.bind ?_
    rintro m m' ⟨rfl, rfl, same⟩
    refine (lead_at ((calmly_resolve home (aimed_target same t)).andThen fun i i' pair =>
      calmly_popScope pair)).bind fun _ _ _ => ih blind home
  | withScope t edit fails body next ihBody ihNext =>
    refine lead_locals.bind ?_
    rintro m m' ⟨rfl, rfl, same⟩
    refine (match_withScope fair home (aimed_target same t) (fun i i' pair =>
      match_editOrPanic fair home blind.1 fails pair) (ihBody blind.2.1 home)).bind fun _ _ _ => ?_
    exact goOn home fun home => ihNext blind.2.2 home
  | addBreadcrumbs t make fails next ih =>
    refine lead_locals.bind ?_
    rintro m m' ⟨rfl, rfl, same⟩
    refine Match.follow (match_addBreadcrumbs fair home (aimed_target same t) fun lock => ?_)
      (fun _ _ => still) fun _ _ _ => ih blind.2 home
    exact calmly_now.bind fun time time' alike =>
      unison_orPanic fair home fails (blind.1 time time' alike)
  | capture t make next ih =>
    refine lead_locals.bind ?_
    rintro m m' ⟨rfl, rfl, same⟩
    refine Match.follow (match_at (calmly_blankEvent.bind fun e e' alike =>
      unison_captureOn fair home (aimed_target same t) (blind.1 e e' alike)))
      (fun _ _ => still) fun u u' alike => ?_
    rw [blind.2.1 u u' alike]
    exact ih u' (blind.2.2 u') home
  | fork t next ih =>
    exact (lead_forkOwn home t).bind fun _ _ _ => goOn home fun home => ih blind home
  | run i body next ihBody ihNext =>
    refine lead_locals.bind ?_
    rintro m m' ⟨rfl, rfl, same⟩
    have next := goOn home fun home => ihNext blind.2 home
    cases left : m.hubs[i]? with
    | none =>
      have right : m'.hubs[i]? = none := by
        rwa [List.getElem?_eq_none_iff, ← same.length, ← List.getElem?_eq_none_iff]
      rw [right]
      exact (ihBody blind.1 home).bind fun _ _ _ => next
    | some h =>
      obtain ⟨inside, -⟩ := List.getElem?_eq_some_iff.mp left
      have right := List.getElem?_eq_getElem (same.length ▸ inside)
      rw [right]
      have pair : Paired m m' _ _ := ⟨i, left, right⟩
      exact (match_runIn (ihBody blind.1 ⟨_, _, rfl, rfl, pair⟩)).bind fun _ _ _ => next
  | attempt body next ihBody ihNext =>
    unfold exec
    refine (Lead.attempt (ihBody blind.1 home)).bind ?_
    rintro _ _ (⟨_, _, rfl, rfl, -⟩ | ⟨p, rfl, rfl⟩)
    · exact goOn home fun home => ihNext _ (blind.2 _) home
    · exact goOn home fun home => ihNext _ (blind.2 _) home

end Code

end Telemetry
