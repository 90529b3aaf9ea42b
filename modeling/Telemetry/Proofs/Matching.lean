import Telemetry.Run

/-! Two computations that run side by side. They match if, started in states that belong together,
they end in the same way, with results and in states that belong together again; neither of them
waits for ever. -/

namespace Telemetry.Run

variable {σ τ σ' τ' α β γ δ : Type}

/-- Both ended with results in `R`, or both with the same panic, and in states in `T`. -/
inductive Ends (R : α → β → Prop) (T : σ → τ → Prop) : Outcome α × σ → Outcome β × τ → Prop
  | done {a : α} {b : β} {s : σ} {t : τ} (result : R a b) (states : T s t) :
      Ends R T (.done a, s) (.done b, t)
  | panicked (p : Payload) {s : σ} {t : τ} (states : T s t) :
      Ends R T (.panicked p, s) (.panicked p, t)

def Match (S T : σ → τ → Prop) (R : α → β → Prop) (x : Run σ α) (y : Run τ β) : Prop :=
  ∀ s t, S s t → Ends R T (x s) (y t)

/-- Two computations that match and cannot panic. -/
def Lead (S T : σ → τ → Prop) (R : α → β → Prop) (x : Run σ α) (y : Run τ β) : Prop :=
  ∀ s t, S s t → ∃ a b s' t', x s = (.done a, s') ∧ y t = (.done b, t') ∧ R a b ∧ T s' t'

variable {S T U : σ → τ → Prop} {R : α → β → Prop} {Q : γ → δ → Prop} {x : Run σ α} {y : Run τ β}

theorem Ends.mono {r : Outcome α × σ} {r' : Outcome β × τ} (h : Ends R T r r')
    (weaker : ∀ s t, T s t → U s t) : Ends R U r r' := by
  cases h with
  | done result states => exact .done result (weaker _ _ states)
  | panicked p states => exact .panicked p (weaker _ _ states)

namespace Lead

theorem modify {f : σ → σ} {g : τ → τ} (h : ∀ s t, S s t → T (f s) (g t)) :
    Lead S T Eq (Run.modify f) (Run.modify g) := fun s t hS =>
  ⟨(), (), f s, g t, rfl, rfl, rfl, h s t hS⟩

theorem modifyGet {f : σ → α × σ} {g : τ → β × τ}
    (h : ∀ s t, S s t → R (f s).1 (g t).1 ∧ T (f s).2 (g t).2) :
    Lead S T R (Run.modifyGet f) (Run.modifyGet g) := fun s t hS =>
  ⟨_, _, _, _, rfl, rfl, h s t hS⟩

/-- What stops panics gives the result, or the panic. -/
theorem attempt (h : Match S T R x y) :
    Lead S T
      (fun a b => (∃ a' b', a = .ok a' ∧ b = .ok b' ∧ R a' b') ∨
        ∃ p, a = .error p ∧ b = .error p)
      (Run.attempt x) (Run.attempt y) := by
  intro s t hS
  have ended := h s t hS
  unfold Run.attempt
  generalize x s = r at ended
  generalize y t = r' at ended
  cases ended with
  | done result states =>
    exact ⟨_, _, _, _, rfl, rfl, .inl ⟨_, _, rfl, rfl, result⟩, states⟩
  | panicked p states => exact ⟨_, _, _, _, rfl, rfl, .inr ⟨p, rfl, rfl⟩, states⟩

theorem toMatch (h : Lead S T R x y) : Match S T R x y := by
  intro s t hS
  obtain ⟨a, b, s', t', left, right, result, states⟩ := h s t hS
  rw [left, right]
  exact .done result states

/-- After a first part that cannot panic, states may be of another kind than in the end. -/
theorem bind {f : α → Run σ γ} {g : β → Run τ δ} (first : Lead S T R x y)
    (second : ∀ a b, R a b → Match T U Q (f a) (g b)) : Match S U Q (x >>= f) (y >>= g) := by
  intro s t hS
  obtain ⟨a, b, s', t', left, right, result, states⟩ := first s t hS
  show Ends Q U (Run.bind x f s) (Run.bind y g t)
  simp only [Run.bind, left, right]
  exact second a b result s' t' states

theorem pure {a : α} {b : β} (h : R a b) : Lead S S R (Pure.pure a) (Pure.pure b) :=
  fun s t hS => ⟨a, b, s, t, rfl, rfl, h, hS⟩

theorem get : Lead S S S (Run.get : Run σ σ) (Run.get : Run τ τ) :=
  fun s t hS => ⟨s, t, s, t, rfl, rfl, hS, hS⟩

theorem andThen {f : α → Run σ γ} {g : β → Run τ δ} (first : Lead S T R x y)
    (second : ∀ a b, R a b → Lead T U Q (f a) (g b)) : Lead S U Q (x >>= f) (y >>= g) := by
  intro s t hS
  obtain ⟨a, b, s', t', left, right, result, states⟩ := first s t hS
  show ∃ c d s' t', Run.bind x f s = _ ∧ Run.bind y g t = _ ∧ Q c d ∧ U s' t'
  simp only [Run.bind, left, right]
  exact second a b result s' t' states

/-- Computations on the first parts of two states, whatever the second parts are. -/
theorem onFirst {S T : σ × σ' → τ × τ' → Prop}
    (h : ∀ a b, Lead (fun s t => S (s, a) (t, b)) (fun s t => T (s, a) (t, b)) R x y) :
    Lead S T R (Run.onFirst x) (Run.onFirst y) := by
  rintro ⟨s, a⟩ ⟨t, b⟩ hS
  obtain ⟨r, r', s', t', left, right, result, states⟩ := h a b s t hS
  refine ⟨r, r', (s', a), (t', b), ?_, ?_, result, states⟩
  · show ((x s).1, ((x s).2, a)) = _
    rw [left]
  · show ((y t).1, ((y t).2, b)) = _
    rw [right]

end Lead

namespace Match

theorem pure {a : α} {b : β} (h : R a b) : Match S S R (Pure.pure a) (Pure.pure b) :=
  fun _ _ hS => .done h hS

theorem get : Match S S S (Run.get : Run σ σ) (Run.get : Run τ τ) := fun _ _ h => .done h h

theorem unwind (p : Payload) : Match S S R (Run.unwind p) (Run.unwind p) :=
  fun _ _ h => .panicked p h

theorem mono (h : Match S T R x y) (weaker : ∀ s t, T s t → U s t) : Match S U R x y :=
  fun s t hS => (h s t hS).mono weaker

/-- A panic of the first part skips the second one, so the states between the parts count as states
after both. -/
theorem follow {f : α → Run σ γ} {g : β → Run τ δ} (first : Match S T R x y)
    (skipped : ∀ s t, T s t → U s t) (second : ∀ a b, R a b → Match T U Q (f a) (g b)) :
    Match S U Q (x >>= f) (y >>= g) := by
  intro s t hS
  have ended := first s t hS
  show Ends Q U (Run.bind x f s) (Run.bind y g t)
  unfold Run.bind
  generalize x s = r at ended
  generalize y t = r' at ended
  cases ended with
  | done result states => exact second _ _ result _ _ states
  | panicked p states => exact .panicked p (skipped _ _ states)

theorem bind {f : α → Run σ γ} {g : β → Run τ δ} (first : Match S T R x y)
    (second : ∀ a b, R a b → Match T T Q (f a) (g b)) : Match S T Q (x >>= f) (y >>= g) :=
  first.follow (fun _ _ h => h) second

/-- What is done after a computation in any case may lead to states of another kind. -/
theorem after {u : Run σ Unit} {v : Run τ Unit} (h : Match S T R x y)
    (cleanUp : Lead T U Eq u v) : Match S U R (Run.after x u) (Run.after y v) := by
  refine (Lead.attempt h).bind fun a b ends => ?_
  obtain ⟨a, b, rfl, rfl, result⟩ | ⟨p, rfl, rfl⟩ := ends
  · exact cleanUp.bind fun _ _ _ => pure result
  · exact cleanUp.bind fun _ _ _ => unwind p

/-- Computations on the first parts of two states, whatever the second parts are. -/
theorem onFirst {S T : σ × σ' → τ × τ' → Prop}
    (h : ∀ a b, Match (fun s t => S (s, a) (t, b)) (fun s t => T (s, a) (t, b)) R x y) :
    Match S T R (Run.onFirst x) (Run.onFirst y) := by
  rintro ⟨s, a⟩ ⟨t, b⟩ hS
  have ended := h a b s t hS
  show Ends R T ((x s).1, ((x s).2, a)) ((y t).1, ((y t).2, b))
  generalize x s = r at ended
  generalize y t = r' at ended
  cases ended with
  | done result states => exact .done result states
  | panicked p states => exact .panicked p states

end Match

end Telemetry.Run
