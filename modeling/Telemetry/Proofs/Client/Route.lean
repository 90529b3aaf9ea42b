import Mathlib.Data.List.Forall2
import Telemetry.Client.Pipeline
import Telemetry.Proofs.Matching

/-! The way of two events through two clients side by side. If whatever they meet leaves them in a
relation, they get equally far, and what is left of them is in that relation. -/

namespace Telemetry

open Run

variable {σ τ α β γ δ : Type} {S : σ → τ → Prop} {R : Event → Event → Prop}

/-- Two computations that may stop an event: both stop it, for whatever reasons, or neither does. -/
inductive Passed (R : α → β → Prop) : Except EventDrop α → Except EventDrop β → Prop
  | ok {a : α} {b : β} (h : R a b) : Passed R (.ok a) (.ok b)
  | stopped (d d' : EventDrop) : Passed R (.error d) (.error d')

namespace Passed

theorem andThen {P : α → β → Prop} {Q : γ → δ → Prop} {x : ExceptT EventDrop (Run σ) α}
    {y : ExceptT EventDrop (Run τ) β} {f : α → ExceptT EventDrop (Run σ) γ}
    {g : β → ExceptT EventDrop (Run τ) δ} (first : Match S S (Passed P) x.run y.run)
    (second : ∀ a b, P a b → Match S S (Passed Q) (f a).run (g b).run) :
    Match S S (Passed Q) (x >>= f).run (y >>= g).run := by
  refine Match.bind first fun a b passed => ?_
  cases passed with
  | ok h => exact second _ _ h
  | stopped d d' => exact .pure (.stopped d d')

theorem lift {P : α → β → Prop} {x : Run σ α} {y : Run τ β} (h : Match S S P x y) :
    Match S S (Passed P) (liftM x : ExceptT EventDrop (Run σ) α).run
      (liftM y : ExceptT EventDrop (Run τ) β).run :=
  h.bind fun _ _ hP => .pure (.ok hP)

end Passed

/-- Two stages that leave events in `R`, or drop both. -/
def Stage.Match (S : σ → τ → Prop) (R : Event → Event → Prop) (f : Stage (Run σ))
    (g : Stage (Run τ)) : Prop :=
  ∀ e e', R e e' → Run.Match S S (Option.Rel R) (f.ask e) (g.ask e')

theorem Stage.match_ofFunction {f g : Event → Option Event}
    (h : ∀ e e', R e e' → Option.Rel R (f e) (g e')) (drop drop' : Uuid → EventDrop) :
    Stage.Match S R (.ofFunction drop f) (.ofFunction drop' g) := fun e e' hR => .pure (h e e' hR)

theorem Stage.match_askAll {fs : List (Stage (Run σ))} {gs : List (Stage (Run τ))}
    (stages : List.Forall₂ (Stage.Match S R) fs gs) {e e' : Event} (h : R e e') :
    Run.Match S S (Passed R) (askAll fs e).run (askAll gs e').run := by
  induction stages generalizing e e' with
  | nil => exact .pure (.ok h)
  | @cons f g fs gs first _ ih =>
    refine Passed.andThen (Passed.lift (first e e' h)) fun answer answer' left => ?_
    cases left with
    | some h => exact ih h
    | none => exact .pure (.stopped _ _)

namespace Client

/-- What two events meet on their ways, with clients that fill them in, leaves them in `R`. -/
structure Route (S : σ → τ → Prop) (R : Event → Event → Prop) (k : Passage (Run σ))
    (k' : Passage (Run τ)) (fill fill' : Event → Event) (c c' : Client) : Prop where
  identified : ∀ e e', R e e' → Match S S R (identify k.uuid e) (identify k'.uuid e')
  filled : ∀ e e', R e e' → R (fill e) (fill' e')
  processors : List.Forall₂ (Stage.Match S R) k.processors k'.processors
  integrations : List.Forall₂ (Stage.Match S R) k.integrations k'.integrations
  ignored : ∀ e e', R e e' →
    (ignoredBy? c.patterns e).isSome = (ignoredBy? c'.patterns e').isSome
  sampled : ∀ e e', R e e' →
    Match S S (Passed fun _ _ => True) (sample c.options.sampleRate k.unit e).run
      (sample c'.options.sampleRate k'.unit e').run
  last : ∀ e e', R e e' →
    List.Forall₂ (Stage.Match S R) (k.last e.kind).toList (k'.last e'.kind).toList

theorem match_ignore {p p' : IgnorePatterns} {e e' : Event}
    (h : (ignoredBy? p e).isSome = (ignoredBy? p' e').isSome) :
    Match S S (Passed fun _ _ => True) (ignore p e : ExceptT EventDrop (Run σ) Unit).run
      (ignore p' e' : ExceptT EventDrop (Run τ) Unit).run := by
  unfold ignore
  cases left : ignoredBy? p e <;> cases right : ignoredBy? p' e' <;> rw [left, right] at h
  · exact .pure (.ok trivial)
  · cases h
  · cases h
  · exact .pure (.stopped _ _)

theorem Route.prepare {k : Passage (Run σ)} {k' : Passage (Run τ)} {c c' : Client}
    {stack stack' : Option Stacktrace} {traces traces' : Traces} {scope scope' : Option Scope}
    (route : Route S R k k' (c.fillIn stack traces scope) (c'.fillIn stack' traces' scope') c c')
    {e e' : Event} (h : R e e') :
    Match S S (Passed R) (c.prepare k stack traces scope e).run
      (c'.prepare k' stack' traces' scope' e').run := by
  refine Passed.andThen (Passed.lift (route.identified e e' h)) fun e e' h => ?_
  refine Passed.andThen (Stage.match_askAll route.processors (route.filled e e' h)) ?_
  intro e e' h
  refine Passed.andThen (Stage.match_askAll route.integrations h) fun e e' h => ?_
  refine Passed.andThen (match_ignore (route.ignored e e' h)) fun _ _ _ => ?_
  refine Passed.andThen (route.sampled e e' h) fun _ _ _ => ?_
  exact Stage.match_askAll (route.last e e' h) h

end Client

end Telemetry
