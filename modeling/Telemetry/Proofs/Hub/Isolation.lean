import Mathlib.Data.Fin.Tuple.Basic
import Telemetry.Proofs.Hub.Unison.Code

/-! Tasks that are bound to their own hubs. Whatever order they are polled in, none of them can tell
that there are others: each captures what it would capture alone, and leaves the thread bound as it
was. -/

namespace Telemetry

open Run Telemetry.Action Telemetry.Program

variable {ρ : Type} {K : ClientId → Prop} {v : View} {l l' m m' : Locals ρ} {w w' u u' : World}
  {o o' : Option HubId}

/-! ### Between polls -/

theorem Code.poll_eq {home : HubId} {others : List HubId} (mine : l.hubs = home :: others)
    (code : Code ρ) (fresh : Fresh) (w : World) :
    code.poll fresh (w, l) =
      let x := Program.runIn home code.exec ({ w with fresh }, l)
      (⟨x.1, World.since { w with fresh } x.2.1, w.thread.bound, x.2.1.thread.bound⟩, x.2) := by
  unfold Code.poll
  rw [mine]
  rfl

/-- A task that is not running has alike things in two worlds. -/
structure Rest (K : ClientId → Prop) (v : View) (l l' : Locals ρ) (w w' : World) : Prop where
  alike : Alike K v w w'
  has : Belongings K v none l l' w w'
  home : l.hubs ≠ []
  distinct : l.hubs.Nodup
  distinct' : l'.hubs.Nodup
  inside : ∀ h ∈ l.hubs, h < w.hubs.length
  inside' : ∀ h ∈ l'.hubs, h < w'.hubs.length

theorem Confined.refl (inside : ∀ h ∈ l.hubs, h < w.hubs.length) (distinct : l.hubs.Nodup) :
    Confined w l.hubs w.thread.bound l w where
  stack := rfl
  traces := rfl
  hooked := rfl
  boundaries := rfl
  bound := rfl
  clients k := by
    cases w.clients[k]? with
    | none => exact .none
    | some c => exact .some ⟨[], .refl c⟩
  distinct := distinct
  inside := inside
  grows := Nat.le_refl _
  others _ _ apart := ⟨apart, rfl⟩

namespace Rest

/-- The next poll of a task starts in worlds that belong together, with new times and random
numbers. -/
theorem linked (rest : Rest K v l l' w w') {fresh fresh' : Fresh}
    (same : v = .sharp → fresh = fresh') :
    Linked ⟨K, v, { w with fresh }, { w' with fresh := fresh' }, l.hubs, l'.hubs⟩ w.thread.bound
      w'.thread.bound none l l' { w with fresh } { w' with fresh := fresh' } where
  left := Confined.refl (w := { w with fresh }) rest.inside rest.distinct
  right := Confined.refl (w := { w' with fresh := fresh' }) rest.inside' rest.distinct'
  tie :=
    { rest.has with
      fresh := same
      events := fun k => by simp [World.since, List.drop_length] }

theorem of_linked {g : Bench} (fair : g.Fair) (linked : Linked g o o' none l l' w w')
    (home : l.hubs ≠ []) : Rest g.clients g.view l l' w w' where
  alike := linked.alike fair
  has := { linked.tie with }
  home := home
  distinct := linked.left.distinct
  distinct' := linked.right.distinct
  inside := linked.left.inside
  inside' := linked.right.inside

/-- A poll comes to alike things in alike worlds, ends, and leaves the binding as it was. -/
theorem poll (rest : Rest K v l l' w w') {code : Code ρ} (blind : code.Blind v)
    {fresh fresh' : Fresh} (same : v = .sharp → fresh = fresh') :
    let r := code.poll fresh (w, l)
    let r' := code.poll fresh' (w', l')
    r.1.told v = r'.1.told v ∧ (r.1.outcome ≠ .blocked ∧ r.1.boundAfter = r.1.boundBefore) ∧
      Rest K v r.2.2 r'.2.2 r.2.1 r'.2.1 ∧
      Confined { w with fresh } l.hubs w.thread.bound r.2.2 r.2.1 := by
  intro r r'
  obtain ⟨home, others, mine⟩ := List.exists_cons_of_ne_nil rest.home
  cases mine' : l'.hubs with
  | nil =>
    have length := rest.has.length
    rw [mine, mine'] at length
    cases length
  | cons home' others' =>
    have pair : Paired l l' home home' := ⟨0, by rw [mine]; rfl, by rw [mine']; rfl⟩
    let g : Bench := ⟨K, v, { w with fresh }, { w' with fresh := fresh' }, l.hubs, l'.hubs⟩
    have fair : g.Fair := { rest.alike with }
    have ran := match_runIn (Code.match_exec fair code blind ⟨_, _, rfl, rfl, pair⟩)
      ({ w with fresh }, l) ({ w' with fresh := fresh' }, l') ⟨rfl, rfl, rest.linked same⟩
    have known := Code.poll_eq mine code fresh w
    have known' := Code.poll_eq mine' code fresh' w'
    generalize Program.runIn home code.exec ({ w with fresh }, l) = x at ran known
    generalize Program.runIn home' code.exec ({ w' with fresh := fresh' }, l') = x' at ran known'
    rw [show r = _ from known, show r' = _ from known']
    have still {s s' : World × Locals ρ}
        (states : From g w.thread.bound w'.thread.bound l l' s s') : s.2.hubs ≠ [] := by
      obtain ⟨rest, grown⟩ := states.1
      rw [← grown, mine]
      simp
    cases ran with
    | done _ states =>
      refine ⟨Prod.ext rfl (funext states.2.2.tie.events), ⟨nofun, states.2.2.left.bound⟩, ?_⟩
      exact ⟨of_linked fair states.2.2 (still states), states.2.2.left⟩
    | panicked p states =>
      refine ⟨Prod.ext rfl (funext states.2.2.tie.events), ⟨nofun, states.2.2.left.bound⟩, ?_⟩
      exact ⟨of_linked fair states.2.2 (still states), states.2.2.left⟩

/-- Whoever else is polled leaves a task alone. -/
theorem spared {own : List HubId} {fresh : Fresh} (rest : Rest K v l l' w w')
    (apart : l.hubs.Disjoint own) (other : Confined { w with fresh } own o m u) :
    Rest K v l l' u w' ∧ l.hubs.Disjoint m.hubs := by
  -- whatever the other one makes has a number that no hub had before
  have outside {h : HubId} (mine : h ∈ l.hubs) : h ∉ m.hubs ∧ u.hubs[h]? = w.hubs[h]? :=
    other.others h (rest.inside h mine) fun theirs => apart mine theirs
  refine ⟨{ rest with alike := ?_, has := ?_, inside := ?_ }, fun h mine => (outside mine).1⟩
  · refine ⟨?_, ?_, ?_, ?_, fun k hk => ?_⟩
    · rw [other.stack, ← rest.alike.stack]
    · rw [other.traces, ← rest.alike.traces]
    · rw [other.hooked, ← rest.alike.hooked]
    · rw [other.boundaries, ← rest.alike.boundaries]
    · have twin := rest.alike.clients k hk
      have kept := other.clients k
      generalize w.clients[k]? = c at twin kept
      generalize w'.clients[k]? = c' at twin
      generalize u.clients[k]? = d at kept
      cases twin with
      | none =>
        cases kept
        exact .none
      | some twin =>
        obtain ⟨es, kept⟩ := kept
        exact .some (twin.takes kept (.refl _))
  · refine { rest.has with hubs := fun h h' pair => ?_ }
    have same : u.hub h = w.hub h := by rw [World.hub, (outside pair.left).2, World.hub]
    rw [same]
    exact rest.has.hubs h h' pair
  · exact fun h mine => Nat.lt_of_lt_of_le (rest.inside h mine) other.grows

theorem forall₂_left {α β : Type} {R : α → β → Prop} {Q : α → α → Prop} {xs : List α} {ys : List β}
    (h : List.Forall₂ R xs ys) (left : ∀ x y, R x y → Q x x) : List.Forall₂ Q xs xs := by
  induction h with
  | nil => exact .nil
  | cons first _ ih => exact .cons (left _ _ first) ih

/-- Each world is alike to itself in a sharp view. -/
theorem same (rest : Rest K v l l' w w') : Rest K .sharp l l w w := by
  refine ⟨⟨rfl, rfl, rfl, rfl, fun k hk => ?_⟩, ⟨⟨rfl, rfl, ?_⟩, fun h h' pair => ?_⟩, rest.home,
    rest.distinct, rest.distinct, rest.inside, rest.inside⟩
  · have twin := rest.alike.clients k hk
    generalize w.clients[k]? = c at twin
    generalize w'.clients[k]? = c' at twin
    cases twin with
    | none => exact .none
    | some twin => exact .some ⟨.refl _, twin.steady, twin.steady, Client.blind_sharp _⟩
  · refine forall₂_left rest.has.guards fun x x' ⟨_, i, at_, _⟩ => ⟨rfl, i, at_, at_⟩
  · obtain ⟨i, at_, at_'⟩ := pair
    obtain rfl : h = h' := Option.some.inj (at_.symm.trans at_')
    obtain ⟨inside, -⟩ := List.getElem?_eq_some_iff.mp at_
    have other := List.getElem?_eq_getElem (rest.has.length ▸ inside)
    obtain ⟨-, fit, locked⟩ := rest.has.hubs h _ ⟨i, at_, other⟩
    exact ⟨rfl, ⟨fit.clients, fun _ _ f _ => Event.blind_sharp f⟩, locked⟩

end Rest

/-! ### Schedules -/

/-- Tasks between polls, whose hubs are their own. -/
structure Together {n : Nat} (K : ClientId → Prop) (L : Fin n → Locals ρ) (w : World) : Prop where
  fine : ∀ i, Rest K .sharp (L i) (L i) w w
  apart : ∀ i j, i ≠ j → (L i).hubs.Disjoint (L j).hubs

namespace Together

variable {n : Nat} {L : Fin n → Locals ρ}

theorem poll (t : Together K L w) (i : Fin n) (code : Code ρ) (fresh : Fresh) :
    let r := code.poll fresh (w, L i)
    Together K (Function.update L i r.2.2) r.2.1 := by
  intro r
  -- a run that is compared with itself keeps what one run alone keeps
  obtain ⟨-, -, after, confined⟩ :=
    (t.fine i).poll (Code.blind_sharp code) (fun _ => Eq.refl fresh)
  have others {j : Fin n} (ne : j ≠ i) := (t.fine j).spared (t.apart j i ne) confined
  constructor
  · intro j
    by_cases mine : j = i
    · subst mine
      rw [Function.update_self]
      exact after
    · rw [Function.update_of_ne mine]
      exact (others mine).1.same
  · intro j k ne
    by_cases mine : j = i
    · subst mine
      rw [Function.update_self, Function.update_of_ne (Ne.symm ne)]
      exact fun _ own other => (others (Ne.symm ne)).2 other own
    · rw [Function.update_of_ne mine]
      by_cases theirs : k = i
      · subst theirs
        rw [Function.update_self]
        exact (others mine).2
      · rw [Function.update_of_ne theirs]
        exact t.apart j k ne

/-- Whatever order tasks are polled in, each poll ends and leaves the binding as it was. -/
theorem orderly (t : Together K L w) (codes : Fin n → Code ρ) (schedule : List (Fin n × Fresh)) :
    ∀ p ∈ Code.interleave codes schedule w L,
      p.2.outcome ≠ .blocked ∧ p.2.boundAfter = p.2.boundBefore := by
  induction schedule generalizing w L with
  | nil => nofun
  | cons turn schedule ih =>
    obtain ⟨i, fresh⟩ := turn
    intro p hp
    rcases List.mem_cons.mp hp with rfl | later
    · exact ((t.fine i).poll (Code.blind_sharp (codes i)) (fun _ => Eq.refl fresh)).2.1
    · exact ih (t.poll i (codes i) fresh) p later

/-- A task that is polled among others comes to what it comes to alone. -/
theorem alone {K' : ClientId → Prop} (t : Together K L w) (codes : Fin n → Code ρ) (i : Fin n)
    (blind : (codes i).Blind v) (rest : Rest K' v (L i) l' w w')
    (schedule : List (Fin n × Fresh)) {supplies : List Fresh}
    (alike : List.Forall₂ (fun f f' => v = .sharp → f = f') (ofTask i schedule) supplies) :
    (ofTask i (Code.interleave codes schedule w L)).map (Poll.told v) =
      (Code.alone (codes i) supplies (w', l')).map (Poll.told v) := by
  induction schedule generalizing w L w' l' supplies with
  | nil =>
    cases alike
    rfl
  | cons turn schedule ih =>
    obtain ⟨j, fresh⟩ := turn
    by_cases mine : j = i
    · subst mine
      rw [ofTask_cons_self] at alike
      cases alike with
      | cons same alike =>
        obtain ⟨told, -, after, -⟩ := rest.poll blind same
        rw [Code.interleave, ofTask_cons_self, Code.alone, List.map_cons, List.map_cons, told]
        refine congrArg _ (ih (t.poll j (codes j) fresh) ?_ alike)
        rw [Function.update_self]
        exact after
    · rw [ofTask_cons_ne mine] at alike
      rw [Code.interleave, ofTask_cons_ne mine]
      -- the other task runs in one of the two worlds only: it is compared with itself
      obtain ⟨-, -, -, confined⟩ :=
        (t.fine j).poll (Code.blind_sharp (codes j)) (fun _ => Eq.refl fresh)
      refine ih (t.poll j (codes j) fresh) ?_ alike
      rw [Function.update_of_ne (Ne.symm mine)]
      exact (rest.spared (t.apart i j (Ne.symm mine)) confined).1

end Together

/-! ### The start -/

/-- A layer with callbacks that a view hides nothing from, and a client that meets no rate limits. -/
structure World.Suits (v : View) (w : World) (x : Layer) : Prop where
  scope : x.scope.Blind v
  client : ∀ k c, x.client = some k → w.clients[k]? = some c → c.Steady ∧ c.Blind v

/-- The layers that a task starts with. -/
structure World.SuitsTask (v : View) (w : World) (parent : HubId) (own : List HubId) : Prop where
  top : w.Suits v (w.hub parent).layers.top
  own : ∀ h ∈ own, ∀ x ∈ (w.hub h).layers.toList, w.Suits v x

/-- Tasks may be given hubs that are there already, as long as no two of them share one and nobody
writes to it. -/
structure World.Ready {n : Nat} (w : World) (parent : HubId) (own : Fin n → List HubId) : Prop where
  there : parent < w.hubs.length
  idle : (w.hub parent).locked = false
  distinct : ∀ i, (own i).Nodup
  apart : ∀ i j, i ≠ j → (own i).Disjoint (own j)
  own : ∀ i, ∀ h ∈ own i, h < w.hubs.length ∧ (w.hub h).locked = false

namespace Action

/-- New hubs, one after the other, out of the top layer of one hub. -/
def forkAll (h : HubId) : (n : Nat) → Action (Fin n → HubId)
  | 0 => return Fin.elim0
  | n + 1 => do
    let first ← forkHub h
    return Fin.cons first (← forkAll h n)

end Action

/-- A world with new hubs that were made out of the top layer of one hub. -/
def World.forked (h : HubId) (n : Nat) (w : World) : World :=
  let top := (w.hub h).layers.top
  { w with hubs := w.hubs ++ List.replicate n (.new top.client top.scope) }

namespace World

variable {h : HubId} {n i : Nat}

theorem hub_forked_old (inside : h < w.hubs.length) (parent : HubId) (n : Nat) :
    (w.forked parent n).hub h = w.hub h := by
  unfold World.hub World.forked
  rw [List.getElem?_append_left inside]

theorem hub_forked_new (inside : i < n) (parent : HubId) :
    (w.forked parent n).hub (w.hubs.length + i) =
      .new (w.hub parent).layers.top.client (w.hub parent).layers.top.scope := by
  unfold World.hub World.forked
  rw [List.getElem?_append_right (Nat.le_add_right ..)]
  simp [inside]
  rfl

theorem forked_forked (inside : h < w.hubs.length) (n : Nat) :
    (w.forked h 1).forked h n = w.forked h (n + 1) := by
  have same := hub_forked_old inside h 1
  unfold forked at same ⊢
  rw [same]
  simp [List.replicate_succ]

theorem forkAll_eq (inside : h < w.hubs.length) (idle : (w.hub h).locked = false) (n : Nat) :
    forkAll h n w = (.done fun i => w.hubs.length + i, w.forked h n) := by
  induction n generalizing w with
  | zero =>
    have same : w.forked h 0 = w := by simp [forked]
    rw [same]
    exact congrArg (fun hs => (Outcome.done hs, w)) (funext fun i => i.elim0)
  | succ n ih =>
    have inside' : h < (w.forked h 1).hubs.length :=
      Nat.lt_of_lt_of_le inside (by simp [forked])
    have rest := ih inside' (by rwa [hub_forked_old inside])
    refine (bind_done (forkHub_eq idle)).trans ((bind_done rest).trans ?_)
    rw [forked_forked inside]
    refine congrArg (fun hs => (Outcome.done hs, w.forked h (n + 1))) (funext fun i => ?_)
    cases i using Fin.cases with
    | zero => rfl
    | succ i =>
      rw [Fin.cons_succ, Fin.val_succ]
      simp only [forked, List.length_append, List.length_replicate]
      exact Nat.add_right_comm ..

end World

namespace World

variable {parent : HubId} {n : Nat} {own : Fin n → List HubId}

/-- Clients that meet no rate limits, and whose callbacks a view hides nothing from. -/
def Serves (v : View) (w : World) (k : ClientId) : Prop :=
  ∀ c, w.clients[k]? = some c → c.Steady ∧ c.Blind v

theorem Suits.fit {xs : Layers} (suits : ∀ x ∈ xs.toList, w.Suits v x) : xs.Fit (w.Serves v) v :=
  ⟨fun x hx k uses c there => (suits x hx).client k c uses there, fun x hx => (suits x hx).scope⟩

/-- Wherever the hub of a task is among the new ones, the task starts with alike things. -/
theorem Ready.rest (ready : w.Ready parent own) {i : Fin n}
    (suits : w.SuitsTask v parent (own i)) (r : ρ) {j j' m m' : Nat} (there : j < m)
    (there' : j' < m') :
    Rest (w.Serves v) v ⟨(w.hubs.length + j) :: own i, [], r⟩
      ⟨(w.hubs.length + j') :: own i, [], r⟩ (w.forked parent m) (w.forked parent m') := by
  have outside (j : Nat) : w.hubs.length + j ∉ own i := fun mine =>
    absurd (ready.own i _ mine).1 (Nat.not_lt.mpr (Nat.le_add_right ..))
  have inside {j m : Nat} (there : j < m) : ∀ h ∈ (w.hubs.length + j) :: own i,
      h < (w.forked parent m).hubs.length := by
    intro h hh
    simp only [forked, List.length_append, List.length_replicate]
    rcases List.mem_cons.mp hh with rfl | mine
    · exact Nat.add_lt_add_left there _
    · exact Nat.lt_add_right _ (ready.own i h mine).1
  refine ⟨⟨rfl, rfl, rfl, rfl, fun k serves => ?_⟩, ⟨⟨rfl, rfl, .nil⟩, ?_⟩, by simp,
    List.nodup_cons.mpr ⟨outside j, ready.distinct i⟩,
    List.nodup_cons.mpr ⟨outside j', ready.distinct i⟩, inside there, inside there'⟩
  · show Option.Rel _ w.clients[k]? w.clients[k]?
    cases found : w.clients[k]? with
    | none => exact .none
    | some c =>
      obtain ⟨steady, blind⟩ := serves c found
      exact .some ⟨.refl c, steady, steady, blind⟩
  · rintro h h' ⟨p, at_, at_'⟩
    cases p with
    | zero =>
      obtain rfl := Option.some.inj at_
      obtain rfl := Option.some.inj at_'
      rw [hub_forked_new there, hub_forked_new there']
      refine ⟨rfl, Suits.fit fun x hx => ?_, by simp [Hub.new]⟩
      rw [List.mem_singleton.mp hx]
      exact suits.top
    | succ p =>
      obtain rfl : h = h' := Option.some.inj (at_.symm.trans at_')
      have mine : h ∈ own i := List.mem_of_getElem? at_
      obtain ⟨old, idle⟩ := ready.own i h mine
      rw [hub_forked_old old, hub_forked_old old]
      exact ⟨rfl, Suits.fit (suits.own h mine), by simp [idle]⟩

end World

/-- Tasks that run in hubs of their own, made one after the other out of the same layer, in any order
of their polls. Each poll ends, and leaves the thread bound as it was. Each task comes to what it comes
to alone, if it gets the same times and random numbers for its polls; and with any others it comes to
the same up to the identifiers and times of events, if they are all that its callbacks leave out and no
draw decides what is sampled. -/
theorem tasks_isolated {n : Nat} (codes : Fin n → Code ρ) (kept : Fin n → ρ) {parent : HubId}
    {own : Fin n → List HubId} (ready : w.Ready parent own)
    (steady : ∀ i, w.SuitsTask .sharp parent (own i)) (schedule : List (Fin n × Fresh)) :
    ∃ hs w₁ h w₂, forkAll parent n w = (.done hs, w₁) ∧ forkHub parent w = (.done h, w₂) ∧
      let polls := Code.interleave codes schedule w₁ fun i => ⟨hs i :: own i, [], kept i⟩
      let alone i supplies := (codes i).alone supplies (w₂, ⟨h :: own i, [], kept i⟩)
      (∀ p ∈ polls, p.2.outcome ≠ .blocked ∧ p.2.boundAfter = p.2.boundBefore) ∧
        ∀ i,
          (ofTask i polls).map (Poll.told .sharp) =
              (alone i (ofTask i schedule)).map (Poll.told .sharp) ∧
            ((codes i).Blind .blurred → w.SuitsTask .blurred parent (own i) → ∀ supplies,
              supplies.length = (ofTask i schedule).length →
              (ofTask i polls).map (Poll.told .blurred) =
                (alone i supplies).map (Poll.told .blurred)) := by
  have together : Together (w.Serves .sharp)
      (fun i : Fin n => (⟨(w.hubs.length + i) :: own i, [], kept i⟩ : Locals ρ))
      (w.forked parent n) := by
    have outside (i j : Fin n) : w.hubs.length + i ∉ own j := fun theirs =>
      absurd (ready.own j _ theirs).1 (Nat.not_lt.mpr (Nat.le_add_right ..))
    refine ⟨fun i => ready.rest (steady i) (kept i) i.isLt i.isLt, fun i j ne h mine theirs => ?_⟩
    rcases List.mem_cons.mp mine with rfl | mine
    · rcases List.mem_cons.mp theirs with same | theirs
      · exact ne (Fin.ext (Nat.add_left_cancel same))
      · exact outside i j theirs
    · rcases List.mem_cons.mp theirs with rfl | theirs
      · exact outside j i mine
      · exact ready.apart i j ne mine theirs
  refine ⟨_, _, _, _, World.forkAll_eq ready.there ready.idle n, forkHub_eq ready.idle, ?_⟩
  refine ⟨together.orderly codes schedule, fun i => ⟨?_, fun blind suits supplies length => ?_⟩⟩
  · refine together.alone codes i (Code.blind_sharp _)
      (ready.rest (steady i) (kept i) i.isLt Nat.zero_lt_one) schedule ?_
    exact List.forall₂_same.mpr fun _ _ _ => rfl
  · refine together.alone codes i blind (ready.rest suits (kept i) i.isLt Nat.zero_lt_one) schedule ?_
    refine (List.forall₂_iff_get).mpr ⟨length.symm, fun _ _ _ => nofun⟩

/-- A task that tags its scope and captures a message, whenever it is polled. -/
def Code.tagging (i : Fin 2) : Code Unit :=
  .configure .active (Scope.setTag "task" (toString i)) none
    (.capture .active (fun _ => .message "polled" .info) fun _ => .stop)

theorem Code.blind_tagging (i : Fin 2) : (Code.tagging i).Blind v := by
  refine ⟨⟨fun s s' same => ?_, fun _ blind => blind⟩, fun _ _ _ => rfl, fun _ _ _ => rfl,
    fun _ => trivial⟩
  show Scope.setTag "task" (toString i) (s.seen v) = Scope.setTag "task" (toString i) (s'.seen v)
  rw [same]

/-- Two polls of one task with a poll of another one between them, and the same task alone, later and
with other random numbers. -/
theorem tasks_isolated_tagging :
    let w := World.single (collecting false) Client.asleep
    let dawn : Fresh := ⟨.epoch, fun _ => 1, 0⟩
    let dusk : Fresh := ⟨.ofSeconds 43200, fun _ => 2, 0⟩
    let polls := Code.interleave Code.tagging [(0, dawn), (1, dawn), (0, dusk)]
      (forkAll 0 2 w).2 fun i => ⟨[1 + i], [], ()⟩
    let alone := (Code.tagging 0).alone [dusk, dusk] ((forkHub 0 w).2, ⟨[1], [], ()⟩)
    w.Ready 0 (fun _ : Fin 2 => []) ∧ (∀ v, w.SuitsTask v 0 []) ∧
      (ofTask 0 polls).map (Poll.told .blurred) = alone.map (Poll.told .blurred) ∧
      alone.map (fun p => (p.events 0).length) = [1, 1] := by
  intro w dawn dusk polls alone
  have one : (1 : Float32) ≥ 1 := by decide +kernel
  have ready : w.Ready 0 (fun _ : Fin 2 => []) :=
    ⟨by decide, rfl, fun _ => .nil, fun _ _ _ _ => nofun, fun _ => nofun⟩
  have suits (v : View) : w.SuitsTask v 0 [] := by
    refine ⟨⟨nofun, ?_⟩, nofun⟩
    rintro k c ⟨⟩ ⟨⟩
    refine ⟨?_, nofun, ?_, nofun, nofun, nofun, .inr (.inl one)⟩
    · rintro t ⟨⟩
      exact fun _ => rfl
    · rintro f ⟨⟩ hint e e' same
      exact congrArg some same
  obtain ⟨hs, w₁, h, w₂, left, right, -, each⟩ := tasks_isolated Code.tagging (fun _ => ()) ready
    (fun _ => suits .sharp) [(0, dawn), (1, dawn), (0, dusk)]
  obtain ⟨rfl, rfl⟩ : hs = (fun i => 1 + i.val) ∧ w₁ = (forkAll 0 2 w).2 := by
    have made := World.forkAll_eq (w := w) (h := 0) ready.there rfl 2
    rw [left] at made ⊢
    exact ⟨Outcome.done.inj (Prod.mk.inj made).1, rfl⟩
  obtain ⟨rfl, rfl⟩ : h = 1 ∧ w₂ = (forkHub 0 w).2 := by
    have made := forkHub_eq (w := w) (h := 0) rfl
    rw [right] at made ⊢
    exact ⟨Outcome.done.inj (Prod.mk.inj made).1, rfl⟩
  refine ⟨ready, suits, (each 0).2 (Code.blind_tagging 0) (suits .blurred) [dusk, dusk] rfl, ?_⟩
  decide +kernel

end Telemetry
