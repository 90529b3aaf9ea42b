import Telemetry.Proofs.Hub.Restoring

/-! Guards and the layers that they take away. A guard knows its layer by the depth alone, so it takes
whatever layer is on top at that depth. That is the layer of its own push if this is there still, and
only a pop of a layer whose guard is held can have taken it before. -/

namespace Telemetry

/-- A call that has to do with the layers of a hub. -/
inductive LayerCall where
  | push
  | pop
  /-- Drops the guard that a push gave, which is known by the number of the push. -/
  | drop (k : Nat)
  /-- Any change of the layer on top. -/
  | edit (f : Layer → Layer)

/-- A hub whose layers are told apart by the pushes that made them. -/
structure Watch where
  world : World
  /-- The guard of each push so far, as long as it is held. -/
  guards : List (Option ScopeGuard)
  /-- The push that made each layer, the top first; layers from before the watch have none. -/
  makers : List (Option Nat)

namespace Watch

def layers (h : HubId) (s : Watch) : Layers := (s.world.hub h).layers

def start (h : HubId) (w : World) : Watch where
  world := w
  guards := []
  makers := (w.hub h).layers.toList.map fun _ => none

/-- What is known when a call has left a world and some guards. If there are more layers than before,
the latest push made the one on top; if there are fewer, those on top are gone. -/
def after (h : HubId) (w : World) (guards : List (Option ScopeGuard)) (s : Watch) : Watch :=
  let before := (s.layers h).depth
  let now := (w.hub h).layers.depth
  { world := w, guards
    makers :=
      if before < now then some s.guards.length :: s.makers else s.makers.drop (before - now) }

def step (h : HubId) (s : Watch) : LayerCall → Watch
  | .push =>
    match Action.pushScope h s.world with
    | (.done g, w) => s.after h w (s.guards ++ [some g])
    | (_, w) => s.after h w s.guards
  | .pop => s.after h (Action.popScope h s.world).2 s.guards
  | .drop k =>
    match s.guards[k]? with
    | some (some g) => s.after h (g.drop s.world).2 (s.guards.set k none)
    | _ => s
  | .edit f =>
    let edited := Action.editLayers h (fun l => ((), { l with top := f l.top })) s.world
    s.after h edited.2 s.guards

def run (h : HubId) (s : Watch) (calls : List LayerCall) : Watch := calls.foldl (step h) s

/-- The guard of a push is held. -/
def Held (s : Watch) (k : Nat) (g : ScopeGuard) : Prop := s.guards[k]? = some (some g)

instance {s : Watch} {k : Nat} {g : ScopeGuard} : Decidable (s.Held k g) :=
  inferInstanceAs (Decidable (_ = _))

/-- A pop takes no layer whose guard is held. -/
def Spares (s : Watch) : LayerCall → Prop
  | .pop => ∀ k g, s.makers.head? = some (some k) → ¬ s.Held k g
  | _ => True

/-- None of the pops takes a layer whose guard is held. -/
def Careful (h : HubId) (s : Watch) : List LayerCall → Prop
  | [] => True
  | call :: calls => s.Spares call ∧ Careful h (s.step h call) calls

/-! ### One call -/

/-- A world whose hub has these layers, and nobody writes to them. -/
structure Has (h : HubId) (w : World) (l : Layers) : Prop where
  inside : h < w.hubs.length
  unlocked : (w.hub h).locked = false
  layers : (w.hub h).layers = l

section

variable {h : HubId} {w : World} {l : Layers}

theorem Has.edit (has : Has h w l) (l' : Layers) (log : List Diagnostic) :
    let left := w.editHub h fun hub => { hub with layers := l' }
    Has h { left with thread := { left.thread with log } } l' := by
  intro left
  have edited : left.hub h = { w.hub h with layers := l' } := World.hub_editHub_self has.inside _
  constructor
  · show h < left.hubs.length
    rw [World.length_editHub]
    exact has.inside
  · show (left.hub h).locked = false
    rw [edited]
    exact has.unlocked
  · show (left.hub h).layers = l'
    rw [edited]

theorem Has.push (has : Has h w l) :
    ∃ w', Action.pushScope h w = (.done ⟨h, l.push.depth⟩, w') ∧ Has h w' l.push := by
  have pushed := Action.editLayers_eq has.unlocked fun s => (ScopeGuard.mk h s.push.depth, s.push)
  rw [has.layers] at pushed
  exact ⟨_, pushed, has.edit l.push w.thread.log⟩

theorem Has.pop (has : Has h w l) : Has h (Action.popScope h w).2 (l.pop?.getD l) := by
  have ran : Action.popScope h w = _ := Action.bind_done (Action.editLayers_eq has.unlocked _)
  rw [ran, has.layers]
  cases l.pop? with
  | some l' => exact has.edit l' w.thread.log
  | none => exact has.edit l _

theorem Has.drop {g : ScopeGuard} (has : Has g.hub w l) :
    Has g.hub (g.drop w).2 (if l.depth = g.depth then l.pop?.getD l else l) := by
  obtain ⟨log, dropped⟩ := Program.drop_eq has.unlocked
  rw [dropped]
  rw [has.layers]
  exact has.edit _ log

theorem Has.editTop (has : Has h w l) (f : Layer → Layer) :
    Has h (Action.editLayers h (fun l => ((), { l with top := f l.top })) w).2
      { l with top := f l.top } := by
  rw [Action.editLayers_eq has.unlocked, has.layers]
  exact has.edit _ w.thread.log

end

/-! ### What every call keeps -/

/-- What is known about the layers of a hub fits them: a held guard has the depth of the layer that its
push made, as long as that is there. -/
structure Sound (h : HubId) (s : Watch) : Prop where
  has : Has h s.world (s.layers h)
  length : s.makers.length = (s.layers h).depth + 1
  made : ∀ k, some k ∈ s.makers → k < s.guards.length
  guard : ∀ k g, s.Held k g → g.hub = h ∧ 0 < g.depth
  depth : ∀ k g front back, s.Held k g → s.makers = front ++ some k :: back →
    back.length = g.depth

variable {h : HubId} {s : Watch} {k : Nat} {g : ScopeGuard} {w : World}

theorem sound_start (there : h < w.hubs.length) (idle : (w.hub h).locked = false) :
    Sound h (start h w) where
  has := ⟨there, idle, rfl⟩
  length := by
    rw [start, List.length_map]
    rfl
  made k hk := by
    obtain ⟨l, -, same⟩ := List.mem_map.mp hk
    cases same
  guard _ _ held := by cases held
  depth _ _ _ _ held := by cases held

/-- After a push there is one layer more, with a guard. -/
theorem Sound.push (sound : Sound h s) (has : Has h w (s.layers h).push) :
    let s' := s.after h w (s.guards ++ [some ⟨h, (s.layers h).push.depth⟩])
    s'.makers = some s.guards.length :: s.makers ∧ Sound h s' := by
  intro s'
  have deeper : (s'.layers h).depth = (s.layers h).depth + 1 := congrArg Layers.depth has.layers
  have makers : s'.makers = some s.guards.length :: s.makers :=
    if_pos (Nat.lt_of_lt_of_eq (Nat.lt_succ_self _) deeper.symm)
  have held {k : Nat} {g : ScopeGuard} (hk : s'.Held k g) :
      s.Held k g ∨ k = s.guards.length ∧ g = ⟨h, (s.layers h).push.depth⟩ := by
    have hk : (s.guards ++ [some ⟨h, (s.layers h).push.depth⟩])[k]? = some (some g) := hk
    rw [List.getElem?_append, List.getElem?_singleton] at hk
    split at hk
    · exact .inl hk
    · next outside =>
      obtain ⟨last, same⟩ := Option.ite_none_right_eq_some.mp hk
      cases same
      exact .inr ⟨by omega, rfl⟩
  refine ⟨makers, ⟨⟨has.inside, has.unlocked, rfl⟩, ?_, ?_, ?_, ?_⟩⟩
  · rw [makers, List.length_cons, sound.length, deeper]
  · intro k hk
    show k < (s.guards ++ _).length
    rw [makers] at hk
    rw [List.length_append, List.length_singleton]
    rcases List.mem_cons.mp hk with new | old
    · cases new
      exact Nat.lt_succ_self _
    · exact Nat.lt_succ_of_lt (sound.made k old)
  · intro k g hk
    rcases held hk with old | ⟨-, rfl⟩
    · exact sound.guard k g old
    · exact ⟨rfl, Nat.succ_pos _⟩
  · intro k g front back hk text
    rw [makers] at text
    rcases held hk with old | ⟨rfl, rfl⟩
    · cases front with
      | nil =>
        obtain ⟨same, -⟩ := List.cons.inj text
        cases same
        have := (List.getElem?_eq_some_iff.mp old).1
        exact absurd this (Nat.lt_irrefl _)
      | cons m front => exact sound.depth k g front back old (List.cons.inj text).2
    · cases front with
      | nil =>
        rw [← (List.cons.inj text).2, sound.length]
        rfl
      | cons m front =>
        have : some s.guards.length ∈ s.makers := by
          rw [(List.cons.inj text).2]
          simp
        exact absurd (sound.made _ this) (Nat.lt_irrefl _)

/-- Layers go from the top on, and guards may be dropped. -/
theorem Sound.shrink (sound : Sound h s) {l : Layers} (has : Has h w l)
    (fewer : l.depth ≤ (s.layers h).depth) {guards : List (Option ScopeGuard)}
    (length : guards.length = s.guards.length)
    (held : ∀ k g, guards[k]? = some (some g) → s.Held k g) :
    let s' := s.after h w guards
    s'.makers = s.makers.drop ((s.layers h).depth - l.depth) ∧ Sound h s' := by
  intro s'
  have depth : (s'.layers h).depth = l.depth := congrArg Layers.depth has.layers
  have makers : s'.makers = s.makers.drop ((s.layers h).depth - l.depth) := by
    rw [← depth]
    exact if_neg (Nat.not_lt.mpr (depth ▸ fewer))
  refine ⟨makers, ⟨⟨has.inside, has.unlocked, rfl⟩, ?_, ?_, ?_, ?_⟩⟩
  · rw [makers, List.length_drop, sound.length, depth]
    omega
  · intro k hk
    rw [makers] at hk
    show k < guards.length
    rw [length]
    exact sound.made k (List.mem_of_mem_drop hk)
  · intro k g hk
    exact sound.guard k g (held k g hk)
  · intro k g front back hk text
    rw [makers] at text
    let gone := s.makers.take ((s.layers h).depth - l.depth)
    refine sound.depth k g (gone ++ front) back (held k g hk) ?_
    rw [List.append_assoc, ← text, List.take_append_drop]

/-- A dropped guard is not held any more, and all others are. -/
theorem held_set {k j : Nat} {g : ScopeGuard} :
    (s.guards.set k none)[j]? = some (some g) ↔ j ≠ k ∧ s.Held j g := by
  rw [List.getElem?_set]
  split
  · next same =>
    subst same
    simp
  · next other => exact (and_iff_right (Ne.symm other)).symm

theorem depth_pop (l : Layers) : (l.pop?.getD l).depth = l.depth - 1 := by
  obtain ⟨top, below⟩ := l
  cases below <;> rfl

theorem toList_pop {l : Layers} (deep : 0 < l.depth) : (l.pop?.getD l).toList = l.toList.tail := by
  obtain ⟨top, below⟩ := l
  cases below with
  | nil => cases deep
  | cons l ls => rfl

/-- What a drop does: if the top has the depth of the guard it goes, and else nothing does. -/
theorem Sound.step_drop (sound : Sound h s) (held : s.Held k g) :
    let s' := s.step h (.drop k)
    let l := s.layers h
    s'.guards = s.guards.set k none ∧
      s'.layers h = (if l.depth = g.depth then l.pop?.getD l else l) ∧
      s'.makers = s.makers.drop (if l.depth = g.depth then 1 else 0) ∧ Sound h s' := by
  intro s' l
  obtain ⟨hub, deep⟩ := sound.guard k g held
  have stepped : s' = s.after h (g.drop s.world).2 (s.guards.set k none) := by
    have held : s.guards[k]? = some (some g) := held
    simp only [s', step, held]
  have has : Has h (g.drop s.world).2 (if l.depth = g.depth then l.pop?.getD l else l) := by
    subst hub
    exact sound.has.drop
  have fewer : (if l.depth = g.depth then l.pop?.getD l else l).depth ≤ l.depth := by
    split
    · rw [depth_pop]
      exact Nat.sub_le ..
    · exact Nat.le_refl _
  obtain ⟨makers, sound'⟩ := sound.shrink has fewer (by simp) fun j g' hj => (held_set.mp hj).2
  rw [stepped]
  refine ⟨rfl, has.layers, makers.trans (congrArg s.makers.drop ?_), sound'⟩
  show l.depth - _ = _
  split
  · rw [depth_pop]
    omega
  · exact Nat.sub_self _

theorem Sound.step_pop (sound : Sound h s) :
    let s' := s.step h .pop
    s'.guards = s.guards ∧ (∃ n ≤ 1, s'.makers = s.makers.drop n) ∧ Sound h s' := by
  intro s'
  have fewer := Nat.le_trans (Nat.le_of_eq (depth_pop (s.layers h))) (Nat.sub_le ..)
  obtain ⟨makers, sound'⟩ := sound.shrink sound.has.pop fewer rfl fun _ _ held => held
  exact ⟨rfl, ⟨_, by rw [depth_pop]; omega, makers⟩, sound'⟩

theorem Sound.step_edit (sound : Sound h s) (f : Layer → Layer) :
    let s' := s.step h (.edit f)
    s'.guards = s.guards ∧ s'.makers = s.makers ∧ Sound h s' := by
  intro s'
  obtain ⟨makers, sound'⟩ :=
    sound.shrink (sound.has.editTop f) (Nat.le_refl _) rfl fun _ _ held => held
  have none : s.makers.drop ((s.layers h).depth - (s.layers h).depth) = s.makers := by
    rw [Nat.sub_self, List.drop_zero]
  exact ⟨rfl, makers.trans none, sound'⟩

theorem Sound.step_push (sound : Sound h s) :
    let s' := s.step h .push
    (∃ g, s'.guards = s.guards ++ [some g]) ∧ s'.makers = some s.guards.length :: s.makers ∧
      Sound h s' := by
  intro s'
  obtain ⟨w, pushed, has⟩ := sound.has.push
  have stepped : s' = s.after h w (s.guards ++ [some ⟨h, (s.layers h).push.depth⟩]) := by
    simp only [s', step, pushed]
  rw [stepped]
  obtain ⟨makers, sound'⟩ := sound.push has
  exact ⟨⟨_, rfl⟩, makers, sound'⟩

theorem step_drop_gone (gone : ¬ ∃ g, s.Held k g) : s.step h (.drop k) = s := by
  cases there : s.guards[k]? with
  | none => simp only [step, there]
  | some g =>
    cases g with
    | none => simp only [step, there]
    | some g => exact absurd ⟨g, there⟩ gone

theorem Sound.step (sound : Sound h s) (call : LayerCall) : Sound h (s.step h call) := by
  cases call with
  | push => exact sound.step_push.2.2
  | pop => exact sound.step_pop.2.2
  | edit f => exact (sound.step_edit f).2.2
  | drop k =>
    by_cases held : ∃ g, s.Held k g
    · obtain ⟨g, held⟩ := held
      exact (sound.step_drop held).2.2.2
    · rw [step_drop_gone held]
      exact sound

theorem Sound.run (sound : Sound h s) (calls : List LayerCall) : Sound h (s.run h calls) := by
  induction calls generalizing s with
  | nil => exact sound
  | cons call calls ih => exact ih (sound.step call)

/-! ### Guards and their layers -/

/-- The layer of each guard that is held is there. -/
def Owned (s : Watch) : Prop := ∀ k g, s.Held k g → some k ∈ s.makers

/-- If the top has the depth of a guard whose layer is there, it is that layer. -/
theorem Sound.on_top (sound : Sound h s) (held : s.Held k g)
    (level : (s.layers h).depth = g.depth) (there : some k ∈ s.makers) :
    ∃ below, s.makers = some k :: below := by
  obtain ⟨front, back, text⟩ := List.append_of_mem there
  have deep := sound.depth k g front back held text
  have length := sound.length
  rw [text, List.length_append, List.length_cons, deep, level] at length
  obtain rfl : front = [] := List.eq_nil_of_length_eq_zero (by omega)
  exact ⟨back, text⟩

theorem Owned.step (owned : s.Owned) (sound : Sound h s) {call : LayerCall}
    (spares : s.Spares call) : (s.step h call).Owned := by
  intro k g held
  cases call with
  | push =>
    obtain ⟨⟨g', guards⟩, makers, -⟩ := sound.step_push
    rw [makers]
    rw [Held, guards, List.getElem?_append, List.getElem?_singleton] at held
    split at held
    · exact List.mem_cons_of_mem _ (owned k g held)
    · obtain ⟨last, -⟩ := Option.ite_none_right_eq_some.mp held
      obtain rfl : k = s.guards.length := by omega
      exact List.mem_cons_self
  | pop =>
    obtain ⟨guards, ⟨n, one, makers⟩, -⟩ := sound.step_pop
    rw [Held, guards] at held
    have there := owned k g held
    rw [makers]
    obtain rfl | rfl : n = 0 ∨ n = 1 := by omega
    · exact there
    · cases text : s.makers with
      | nil => rw [text] at there; cases there
      | cons m below =>
        rw [text] at there
        rcases List.mem_cons.mp there with top | deeper
        · refine absurd held (spares k g ?_)
          rw [text, top]
          rfl
        · exact deeper
  | edit f =>
    obtain ⟨guards, makers, -⟩ := sound.step_edit f
    rw [Held, guards] at held
    rw [makers]
    exact owned k g held
  | drop j =>
    by_cases mine : ∃ g, s.Held j g
    · obtain ⟨g', mine⟩ := mine
      obtain ⟨guards, -, makers, -⟩ := sound.step_drop mine
      rw [Held, guards] at held
      obtain ⟨other, held⟩ := held_set.mp held
      have there := owned k g held
      rw [makers]
      split
      · next level =>
        -- the layer that goes is that of the dropped guard
        obtain ⟨below, text⟩ := sound.on_top mine level (owned j g' mine)
        rw [text] at there ⊢
        rcases List.mem_cons.mp there with same | deeper
        · exact absurd (Option.some.inj same) other
        · exact deeper
      · exact there
    · rw [step_drop_gone mine] at held ⊢
      exact owned k g held

theorem Owned.run (owned : s.Owned) (sound : Sound h s) {calls : List LayerCall}
    (careful : Careful h s calls) : (s.run h calls).Owned := by
  induction calls generalizing s with
  | nil => exact owned
  | cons call calls ih =>
    exact ih (owned.step sound careful.1) (sound.step call) careful.2

/-- Whatever was pushed, popped and dropped before, dropping a guard takes a layer away if the top is as
deep as the layer of the guard was, and then it takes the top alone. That is its own layer just if this
is still there; and so it is if none of the pops took a layer whose guard was held. -/
theorem drop_takes_own {w : World} (there : h < w.hubs.length) (idle : (w.hub h).locked = false)
    (calls : List LayerCall) :
    let s := (start h w).run h calls
    s.makers.length = (s.layers h).toList.length ∧
      ∀ k g, s.Held k g →
        let s' := s.step h (.drop k)
        ((s'.layers h).depth < (s.layers h).depth ↔ (s.layers h).depth = g.depth) ∧
        ((s'.layers h).depth < (s.layers h).depth →
          (s'.layers h).toList = (s.layers h).toList.tail ∧
          (s.makers.head? = some (some k) ↔ some k ∈ s.makers)) ∧
        (Careful h (start h w) calls → some k ∈ s.makers) := by
  intro s
  have sound : Sound h s := (sound_start there idle).run calls
  refine ⟨sound.length, ?_⟩
  intro k g held s'
  obtain ⟨-, deep⟩ := sound.guard k g held
  have layers : s'.layers h = _ := (sound.step_drop held).2.1
  have sinks : (s'.layers h).depth < (s.layers h).depth ↔ (s.layers h).depth = g.depth := by
    rw [layers]
    split
    · next level => exact iff_of_true (by rw [depth_pop]; omega) level
    · next other => exact iff_of_false (Nat.lt_irrefl _) other
  refine ⟨sinks, fun less => ⟨?_, ?_, ?_⟩, fun careful => ?_⟩
  · rw [layers, if_pos (sinks.mp less)]
    exact toList_pop (by rw [sinks.mp less]; exact deep)
  · exact List.mem_of_mem_head?
  · intro mine
    obtain ⟨below, text⟩ := sound.on_top held (sinks.mp less) mine
    rw [text]
    rfl
  · have owned : (start h w).Owned := fun _ _ held => by cases held
    exact owned.run (sound_start there idle) careful k g held

/-- Sets a tag of the layer on top. -/
def tagging (key value : String) : LayerCall :=
  .edit fun l => { l with scope := l.scope.setTag key value }

/-- The first guard is dropped while another layer is above its own, so this stays and is popped when it
is on top again. The third guard takes its own layer at the same depth. -/
theorem drop_takes_own_third :
    let w := World.single (Client.plain (Client.logging none)) Client.busy
    let calls := [.push, .push, .drop 0, .drop 1, .pop, .push, tagging "a" "1"]
    let s := (start 0 w).run 0 calls
    let s' := s.step 0 (.drop 2)
    0 < w.hubs.length ∧ (w.hub 0).locked = false ∧ s.Held 2 ⟨0, 1⟩ ∧
      (s'.layers 0).depth < (s.layers 0).depth ∧ s.makers.head? = some (some 2) := by
  intro w calls s s'
  have there : 0 < w.hubs.length := Nat.zero_lt_one
  have held : s.Held 2 ⟨0, 1⟩ := by decide +kernel
  have careful : Careful 0 (start 0 w) calls := by
    -- what the pop finds: the layer of the first push, whose guard is gone
    let left := (start 0 w).run 0 [.push, .push, .drop 0, .drop 1]
    have made : left.makers.head? = some (some 0) := by decide +kernel
    have gone : left.guards[0]? = some none := by decide +kernel
    refine ⟨trivial, trivial, trivial, trivial, fun k g top held => ?_, trivial, trivial, trivial⟩
    obtain rfl : 0 = k := Option.some.inj (Option.some.inj (made.symm.trans top))
    cases gone.symm.trans held
  have level : (s.layers 0).depth = 1 := by decide +kernel
  obtain ⟨sinks, takes, owned⟩ := (drop_takes_own there rfl calls).2 2 _ held
  have less := sinks.mpr level
  exact ⟨there, rfl, held, less, (takes less).2.mpr (owned careful)⟩

/-- A layer is popped while its guard is held, and the next one is as deep: the guard takes that, and
what was written there is lost. -/
theorem drop_takes_another :
    let w := World.single (Client.plain (Client.logging none)) Client.busy
    let s := (start 0 w).run 0 [.push, .pop, .push, tagging "a" "1"]
    let s' := s.step 0 (.drop 0)
    s.Held 0 ⟨0, 1⟩ ∧ (s'.layers 0).depth < (s.layers 0).depth ∧
      s.makers.head? = some (some 1) ∧
      (s.layers 0).top.scope.tag? "a" = some "1" ∧ (s'.layers 0).top.scope.tag? "a" = none := by
  refine ⟨?_, ?_, ?_, ?_, ?_⟩
  all_goals decide +kernel

end Watch

end Telemetry
