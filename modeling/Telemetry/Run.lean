/-! Computations that can end in three ways: with a result, with a panic that unwinds them, or
never, because they wait for a lock that they hold themselves. The state they leave counts in each
case. -/

namespace Telemetry

/-- What a panic carries. -/
inductive PanicContent where
  | text (s : String)
  /-- Anything that is no text. -/
  | other
deriving DecidableEq, Repr, Inhabited

/-- The payload of a panic. Payloads that exist at the same time have different addresses. -/
structure Payload where
  address : Nat
  content : PanicContent
deriving DecidableEq, Repr, Inhabited

/-- The message of a panic. -/
def Payload.message (p : Payload) : String :=
  match p.content with
  | .text s => s
  | .other => "Box<Any>"

/-- How a computation ended. -/
inductive Outcome (α : Type) where
  | done (a : α)
  | panicked (p : Payload)
  | blocked
deriving Repr

/-- A computation on a state. -/
def Run (σ α : Type) : Type := σ → Outcome α × σ

namespace Run

variable {σ τ α β : Type}

/-- A result and nothing else. -/
def pure (a : α) : Run σ α := fun s => (.done a, s)

/-- One computation after the other, as long as the first one gives a result. -/
def bind (x : Run σ α) (f : α → Run σ β) : Run σ β := fun s =>
  match x s with
  | (.done a, s) => f a s
  | (.panicked p, s) => (.panicked p, s)
  | (.blocked, s) => (.blocked, s)

instance : Monad (Run σ) where
  pure := Run.pure
  bind := Run.bind

/-- The state. -/
def get : Run σ σ := fun s => (.done s, s)

/-- Changes the state. -/
def modify (f : σ → σ) : Run σ Unit := fun s => (.done (), f s)

/-- Changes the state and gives a result. -/
def modifyGet (f : σ → α × σ) : Run σ α := fun s => let (a, s) := f s; (.done a, s)

/-- Panics. -/
def unwind (p : Payload) : Run σ α := fun s => (.panicked p, s)

/-- Waits for a lock that is never released. -/
def block : Run σ α := fun s => (.blocked, s)

instance : Inhabited (Run σ α) := ⟨block⟩

/-- Stops a panic. -/
def attempt (x : Run σ α) : Run σ (Except Payload α) := fun s =>
  match x s with
  | (.done a, s) => (.done (.ok a), s)
  | (.panicked p, s) => (.done (.error p), s)
  | (.blocked, s) => (.blocked, s)

/-- Runs `y` after `x`, also if `x` panics. -/
def after (x : Run σ α) (y : Run σ Unit) : Run σ α := do
  match ← attempt x with
  | .ok a => y; return a
  | .error p => y; unwind p

/-- A computation on the first part of a state. -/
def onFirst (x : Run σ α) : Run (σ × τ) α := fun (s, t) =>
  let (r, s) := x s
  (r, (s, t))

instance : MonadLift (Run σ) (Run (σ × τ)) := ⟨onFirst⟩

/-- A computation on the second part of a state. -/
def onSecond (x : Run τ α) : Run (σ × τ) α := fun (s, t) =>
  let (r, t) := x t
  (r, (s, t))

end Run

end Telemetry
