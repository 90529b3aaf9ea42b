import Telemetry.Recover

/-! Histories of panics, in which a panic goes by its place. A stack that was kept for one waits
until it is reported or another one takes its place. A chronicle of what happens accounts for the
stack of each report, as long as panics begin, are stopped and go on in turn. -/

namespace Telemetry

/-! ### Histories -/

/-- What happens to panics. -/
inductive Happening where
  /-- A panic begins. The hook keeps a stack for the boundary around it, or leaves the one that is
  kept alone. -/
  | raised (kept : Option (Option Stacktrace))
  /-- A panic that was stopped goes on. -/
  | resumed (n : Nat)
  /-- Code that is no boundary stops a panic. -/
  | stopped (n : Nat)
  /-- A boundary reports a panic. -/
  | reported (n : Nat) (stack : Option Stacktrace)
deriving DecidableEq

namespace Happening

/-- Whether the stack that was kept before is not kept any more. -/
def ends : Happening → Bool
  | .raised kept => kept.isSome
  | .resumed _ | .stopped _ => false
  | .reported .. => true

end Happening

/-- The hook kept a stack for a panic, and it is still there. -/
def Waits (past : List Happening) (n : Nat) (stack : Option Stacktrace) : Prop :=
  past[n]? = some (.raised (some stack)) ∧ ∀ x ∈ past.drop (n + 1), x.ends = false

instance (past : List Happening) (n : Nat) (stack : Option Stacktrace) :
    Decidable (Waits past n stack) := inferInstanceAs (Decidable (_ ∧ _))

namespace Waits

variable {past : List Happening} {m n : Nat} {s t : Option Stacktrace}

theorem lt (waits : Waits past n s) : n < past.length :=
  (List.getElem?_eq_some_iff.mp waits.1).1

theorem concat_iff (x : Happening) : Waits (past ++ [x]) n s ↔
    (Waits past n s ∧ x.ends = false) ∨ (n = past.length ∧ x = .raised (some s)) := by
  unfold Waits
  rcases Nat.lt_trichotomy n past.length with before | same | behind
  · rw [List.getElem?_append_left before, List.drop_append_of_le_length before,
      List.forall_mem_append, List.forall_mem_singleton, and_assoc]
    exact ⟨.inl, fun h => h.resolve_right fun h => absurd h.1 (Nat.ne_of_lt before)⟩
  · subst same
    rw [List.getElem?_concat_length, List.drop_eq_nil_of_le (by simp), Option.some_inj,
      List.getElem?_eq_none (Nat.le_refl _)]
    simp
  · have out : (past ++ [x])[n]? = none := List.getElem?_eq_none (by simp; omega)
    rw [out, List.getElem?_eq_none (Nat.le_of_lt behind)]
    simp only [reduceCtorEq, false_and, false_or, false_iff, not_and]
    intro same
    omega

theorem concat_iff_of_ends {x : Happening} (on : x.ends = false) :
    Waits (past ++ [x]) n s ↔ Waits past n s := by
  rw [concat_iff, on, eq_self, and_true]
  refine or_iff_left ?_
  rintro ⟨-, rfl⟩
  cases on

/-- There is room for one stack. -/
theorem unique (first : Waits past m s) (second : Waits past n t) : m = n ∧ s = t := by
  have ordered {i j : Nat} {s t : Option Stacktrace} (hi : Waits past i s) (hj : Waits past j t) :
      ¬ i < j := by
    intro lt
    have there : .raised (some t) ∈ past.drop (i + 1) := by
      refine List.mem_iff_getElem?.mpr ⟨j - (i + 1), ?_⟩
      rw [List.getElem?_drop, Nat.add_sub_cancel' lt]
      exact hj.1
    cases hi.2 _ there
  obtain rfl : m = n := Nat.le_antisymm (Nat.le_of_not_lt (ordered second first))
    (Nat.le_of_not_lt (ordered first second))
  cases first.1.symm.trans second.1
  exact ⟨rfl, rfl⟩

end Waits

/-- A stack outlasts its panic. -/
example : Waits [.raised (some none), .stopped 0, .raised none] 0 none := by decide

def Began (past : List Happening) (n : Nat) : Prop := ∃ kept, past[n]? = some (.raised kept)

theorem Began.concat {past : List Happening} {n : Nat} (began : Began past n) (x : Happening) :
    Began (past ++ [x]) n := by
  obtain ⟨kept, there⟩ := began
  obtain ⟨before, -⟩ := List.getElem?_eq_some_iff.mp there
  exact ⟨kept, (List.getElem?_append_left before).trans there⟩

/-- What is to be said about a report of a panic with a stack. -/
structure Accounted (past : List Happening) (n : Nat) (stack : Option Stacktrace) : Prop where
  began : Began past n
  /-- The stack is the one that waits. -/
  waiting : ∀ s, stack = some s ↔ ∃ m, Waits past m (some s)
  /-- If that was kept for another panic, this one was stopped, and then the one of the report began
  without notice of the hook, or it had been stopped too. -/
  other : ∀ m s, Waits past m s → m ≠ n →
    .stopped m ∈ past ∧ (past[n]? = some (.raised none) ∨ .resumed n ∈ past)

/-- A report has the stack of its own panic, if any, just if no other panic's stack waits. -/
theorem Accounted.own_iff {past : List Happening} {n : Nat} {stack : Option Stacktrace}
    (accounted : Accounted past n stack) :
    (∀ s, stack = some s → Waits past n (some s)) ↔ ¬ ∃ m s, m ≠ n ∧ Waits past m (some s) := by
  constructor
  · rintro own ⟨m, s, other, waits⟩
    have itself := own s ((accounted.waiting s).mpr ⟨m, waits⟩)
    exact other (waits.unique itself).1
  · intro alone s has
    obtain ⟨m, waits⟩ := (accounted.waiting s).mp has
    by_cases itself : m = n
    · rwa [itself] at waits
    · exact absurd ⟨m, s, itself, waits⟩ alone

/-- A history all of whose reports are accounted for. -/
def Explained (past : List Happening) : Prop :=
  ∀ k n stack, past[k]? = some (.reported n stack) → Accounted (past.take k) n stack

theorem Explained.concat {past : List Happening} (explained : Explained past) {x : Happening}
    (last : ∀ n stack, x = .reported n stack → Accounted past n stack) :
    Explained (past ++ [x]) := by
  intro k n stack here
  rcases Nat.lt_trichotomy k past.length with before | same | behind
  · rw [List.getElem?_append_left before] at here
    rw [List.take_append_of_le_length (Nat.le_of_lt before)]
    exact explained k n stack here
  · subst same
    rw [List.getElem?_concat_length] at here
    rw [List.take_left']
    · exact last n stack (Option.some.inj here)
    · rfl
  · rw [List.getElem?_eq_none (by simp; omega)] at here
    cases here

/-! ### Chronicles -/

/-- What a program writes down about its panics. -/
structure Chronicle where
  past : List Happening
  /-- The panic that began last, or last went on. -/
  flying : Nat
  /-- The panics that were stopped, with what they carried. -/
  caught : List (Nat × Payload)

namespace Chronicle

def empty : Chronicle := ⟨[], 0, []⟩

def raise (kept : Option (Option Stacktrace)) (c : Chronicle) : Chronicle :=
  { c with past := c.past ++ [.raised kept], flying := c.past.length }

def resume (n : Nat) (c : Chronicle) : Chronicle :=
  { c with past := c.past ++ [.resumed n], flying := n }

def stop (p : Payload) (c : Chronicle) : Chronicle :=
  { c with past := c.past ++ [.stopped c.flying], caught := c.caught ++ [(c.flying, p)] }

def report (stack : Option Stacktrace) (c : Chronicle) : Chronicle :=
  { c with past := c.past ++ [.reported c.flying stack] }

/-- A panic leaves a boundary, which reports it unless that was done already. By
`reportAtBoundary_new` the report has the stack that the thread keeps. -/
def leave (t : ThreadState) (p : Payload) (c : Chronicle) : Chronicle :=
  if t.reported ≠ some p.key then c.report t.stash else c

/-- The thread keeps the stack that waits. -/
structure Sound (kept : Option Stacktrace) (c : Chronicle) : Prop where
  kept : ∀ s, kept = some s ↔ ∃ n, Waits c.past n (some s)
  caught : ∀ q ∈ c.caught, Began c.past q.1
  explained : Explained c.past

/-- No panic is on its way: the one whose stack waits was stopped. -/
structure AtRest (kept : Option Stacktrace) (c : Chronicle) : Prop extends Sound kept c where
  stopped : ∀ m s, Waits c.past m s → .stopped m ∈ c.past

/-- A panic is on its way: it is accounted for if it is reported now. -/
structure InFlight (kept : Option Stacktrace) (c : Chronicle) : Prop extends Sound kept c where
  began : Began c.past c.flying
  other : ∀ m s, Waits c.past m s → m ≠ c.flying →
    .stopped m ∈ c.past ∧ (c.past[c.flying]? = some (.raised none) ∨ .resumed c.flying ∈ c.past)

variable {kept : Option Stacktrace} {c : Chronicle}

theorem atRest_empty : AtRest none empty where
  kept s := by simp [empty, Waits]
  caught := nofun
  explained k n stack here := by cases here
  stopped m s waits := absurd waits.lt (Nat.not_lt_zero m)

/-- The kept stack is as before while nothing replaces or takes it. -/
theorem Sound.concat (sound : Sound kept c) {x : Happening} (on : x.ends = false)
    {c' : Chronicle} (written : c'.past = c.past ++ [x])
    (caught : ∀ q ∈ c'.caught, Began c.past q.1) : Sound kept c' where
  kept s := by
    rw [sound.kept, written]
    exact exists_congr fun n => (Waits.concat_iff_of_ends on).symm
  caught q hq := written ▸ (caught q hq).concat x
  explained := by
    rw [written]
    refine sound.explained.concat fun n stack reported => ?_
    rw [reported] at on
    cases on

theorem AtRest.raise (rest : AtRest kept c) (hook : Option (Option Stacktrace)) :
    InFlight (hook.getD kept) (c.raise hook) := by
  have began : Began (c.raise hook).past c.past.length := ⟨hook, List.getElem?_concat_length⟩
  cases hook with
  | none =>
    have sound : Sound kept (c.raise none) :=
      rest.toSound.concat (x := .raised none) rfl rfl rest.caught
    refine { sound with began, other := fun m s waits _ => ?_ }
    have before : Waits c.past m s := (Waits.concat_iff_of_ends rfl).mp waits
    refine ⟨List.mem_append_left _ (rest.stopped m s before), .inl ?_⟩
    exact List.getElem?_concat_length
  | some stack =>
    have only (n : Nat) (s : Option Stacktrace) :
        Waits (c.raise (some stack)).past n s ↔ n = c.past.length ∧ stack = s := by
      simp [Chronicle.raise, Waits.concat_iff, Happening.ends]
    exact {
      kept := fun s => by simp [only]
      caught := fun q hq => (rest.caught q hq).concat _
      explained := rest.explained.concat nofun
      began
      other := fun m s waits elsewhere => absurd ((only m s).mp waits).1 elsewhere }

theorem AtRest.resume (rest : AtRest kept c) {n : Nat} (began : Began c.past n) :
    InFlight kept (c.resume n) := by
  have sound : Sound kept (c.resume n) := rest.toSound.concat (x := .resumed n) rfl rfl rest.caught
  refine { sound with began := began.concat _, other := fun m s waits _ => ?_ }
  have before : Waits c.past m s := (Waits.concat_iff_of_ends rfl).mp waits
  refine ⟨List.mem_append_left _ (rest.stopped m s before), .inr ?_⟩
  exact List.mem_append_right _ List.mem_cons_self

theorem InFlight.stop (flight : InFlight kept c) (p : Payload) : AtRest kept (c.stop p) := by
  have caught (q : Nat × Payload) (hq : q ∈ (c.stop p).caught) : Began c.past q.1 := by
    rcases List.mem_append.mp hq with before | last
    · exact flight.caught q before
    · rw [List.mem_singleton.mp last]
      exact flight.began
  have sound : Sound kept (c.stop p) :=
    flight.toSound.concat (x := .stopped c.flying) rfl rfl caught
  refine { sound with stopped := fun m s waits => ?_ }
  have before : Waits c.past m s := (Waits.concat_iff_of_ends rfl).mp waits
  by_cases itself : m = c.flying
  · rw [itself]
    exact List.mem_append_right _ List.mem_cons_self
  · exact List.mem_append_left _ (flight.other m s before itself).1

/-- After a report no stack waits. -/
theorem InFlight.report (flight : InFlight kept c) : InFlight none (c.report kept) := by
  have nobody (m : Nat) (s : Option Stacktrace) : ¬ Waits (c.report kept).past m s := by
    simp [Chronicle.report, Waits.concat_iff, Happening.ends]
  have accounted : Accounted c.past c.flying kept := ⟨flight.began, flight.kept, flight.other⟩
  exact {
    kept := fun s => by simp [nobody]
    caught := fun q hq => (flight.caught q hq).concat _
    explained := flight.explained.concat fun n stack reported => by
      cases reported
      exact accounted
    began := flight.began.concat _
    other := fun m s waits => absurd waits (nobody m s) }

theorem InFlight.leave {t : ThreadState} (flight : InFlight t.stash c) (p : Payload) :
    InFlight (if t.reported ≠ some p.key then none else t.stash) (c.leave t p) := by
  unfold Chronicle.leave
  split
  · exact flight.report
  · exact flight

end Chronicle

end Telemetry
