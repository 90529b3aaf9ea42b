import Telemetry.Proofs.Client.Watching

/-! Asking callbacks in turn. The calls form a chain: each is about what the one before it passed
on, and nothing is called after one that passes nothing on. -/

namespace Telemetry.Client

variable {σ : Type}

/-! ### Chains of calls -/

/-- `Chain e calls left`: the first call is about `e`, each later one about what the one before it
passed on, and `left` is what is left in the end. Only the last call may pass nothing on. -/
inductive Chain : Event → List Call → Option Event → Prop
  | start (e : Event) : Chain e [] (some e)
  | passed {call : Call} {calls : List Call} {e : Event} {left : Option Event} :
      call.output? = some e → Chain e calls left → Chain call.input (call :: calls) left
  | stopped {call : Call} : call.output? = none → Chain call.input [call] none

namespace Chain

theorem append {e e' : Event} {calls more : List Call} {left : Option Event}
    (h : Chain e calls (some e')) (h' : Chain e' more left) : Chain e (calls ++ more) left := by
  generalize hl : some e' = l at h
  induction h with
  | start e =>
    cases hl
    exact h'
  | passed out _ ih => exact .passed out (ih hl)
  | stopped => cases hl

/-- Nothing is called after a call that passes nothing on. -/
theorem eq_nil_of_stopped {e : Event} {before after : List Call} {call : Call}
    {left : Option Event} (h : Chain e (before ++ call :: after) left)
    (stopped : call.output? = none) : after = [] ∧ left = none := by
  induction before generalizing e with
  | nil =>
    cases h with
    | passed out _ => simp [stopped] at out
    | stopped => exact ⟨rfl, rfl⟩
  | cons first before ih =>
    generalize hc : first :: before ++ call :: after = calls at h
    cases h with
    | start => cases hc
    | passed _ rest =>
      cases hc
      exact ih rest
    | stopped => simp at hc

end Chain

/-- The calls of an event's way that asks `names` in their order, about `e` first: `left` is what is
left, of which there is nothing if not all were asked. -/
structure Asked (names : List Callback) (e : Event) (calls : List Call) (left : Option Event) :
    Prop where
  chain : Chain e calls left
  order : calls.map Call.callback <+: names
  all : left.isSome → calls.map Call.callback = names

namespace Asked

variable {names more : List Callback} {e e' : Event} {calls : List Call} {left : Option Event}

theorem nobody : Asked [] e [] (some e) := ⟨.start e, List.prefix_refl _, fun _ => rfl⟩

theorem stopped (call : Call) (h : call.output? = none) :
    Asked (call.callback :: names) call.input [call] none :=
  ⟨.stopped h, by simp, by simp⟩

theorem cons (call : Call) (h : Asked names e calls left) (out : call.output? = some e) :
    Asked (call.callback :: names) call.input (call :: calls) left := by
  refine ⟨.passed out h.chain, ?_, fun some => ?_⟩
  · rw [List.map_cons]
    exact (List.prefix_cons_inj _).mpr h.order
  · rw [List.map_cons, h.all some]

theorem append {calls' : List Call} (h : Asked names e calls (some e'))
    (h' : Asked more e' calls' left) : Asked (names ++ more) e (calls ++ calls') left := by
  have first : calls.map Call.callback = names := h.all rfl
  refine ⟨h.chain.append h'.chain, ?_, fun some => ?_⟩
  · rw [List.map_append, first]
    exact (List.prefix_append_right_inj names).mpr h'.order
  · rw [List.map_append, first, h'.all some]

/-- With at most one callback to ask, every call is about the event that comes to it. -/
theorem input_eq (h : Asked names e calls left) (single : names.length ≤ 1) {call : Call}
    (hc : call ∈ calls) : call.input = e := by
  have few : calls.length ≤ names.length := by simpa using h.order.length_le
  cases h.chain with
  | start => cases hc
  | @passed first rest _ _ _ _ =>
    obtain rfl : rest = [] := by
      rw [List.length_cons] at few
      exact List.length_eq_zero_iff.mp (by omega)
    rw [List.mem_singleton.mp hc]
  | stopped => rw [List.mem_singleton.mp hc]

/-- With nobody to ask, an event is left as it is. -/
theorem eq_of_nil (h : Asked [] e calls (some e')) : e' = e := by
  obtain rfl : calls = [] := List.map_eq_nil_iff.mp (h.all rfl)
  cases h.chain
  rfl

end Asked

theorem askAll_sees (name : Nat → Callback) (fs : List (Stage (Run σ))) (e : Event)
    (seen : Sight) :
    Sees (Stage.askAll fs e).run (Stage.askAll (watchAll name fs) e).run seen fun r seen' =>
      ∃ calls, seen' = seen.add calls ∧
        Asked ((List.range fs.length).map name) e calls (r.bind Except.toOption) := by
  -- The names of the rest start one further, so the induction is over all ways to name stages.
  induction fs generalizing name e seen with
  | nil =>
    exact .pure ⟨[], by simp [Sight.add], .nobody⟩
  | cons f fs ih =>
    have names : (List.range (f :: fs).length).map name =
        name 0 :: (List.range fs.length).map fun i => name (i + 1) := by
      simp [List.range_succ_eq_map, Function.comp_def]
    rw [names, watchAll, List.mapIdx_cons]
    refine .liftThen (.watch (name 0) f e) ?_ fun a seen' h => ?_
    · exact fun seen' h => ⟨_, h, .stopped ⟨name 0, e, none⟩ rfl⟩
    subst h
    cases a with
    | none => exact .pure ⟨_, rfl, .stopped ⟨name 0, e, some none⟩ rfl⟩
    | some e' =>
      refine (ih (fun i => name (i + 1)) e' _).mono fun r seen' => ?_
      rintro ⟨calls, rfl, rest⟩
      exact ⟨_, by simp [Sight.add], rest.cons ⟨name 0, e, some (some e')⟩ rfl⟩

/-- The name under which the last callback for a kind of event is watched, if there is one. -/
def Passage.lastName (k : Passage (Run σ)) (kind : EventKind) : List Callback :=
  (k.last kind).toList.map fun _ => .last kind

theorem askLast_sees (k : Passage (Run σ)) (kind : EventKind) (e : Event) (seen : Sight) :
    Sees (Stage.askAll (k.last kind).toList e).run (Stage.askAll (k.watched.last kind).toList e).run
      seen fun r seen' => ∃ calls, seen' = seen.add calls ∧
        Asked (k.lastName kind) e calls (r.bind Except.toOption) := by
  have asked := askAll_sees (fun _ => .last kind) (k.last kind).toList e seen
  rw [last_watched, Passage.lastName]
  cases h : k.last kind <;> rw [h] at asked <;> exact asked

end Telemetry.Client
