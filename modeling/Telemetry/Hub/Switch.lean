import Telemetry.Hub.Access

/-! Binding threads and tasks to hubs. A switch knows the binding that it replaced and brings it
back, and code that runs in a hub always ends with the binding it started with. -/

namespace Telemetry

variable {σ α : Type}

/-- A change of the hub in use. -/
structure Switch where
  /-- The binding before, if it was a different one. -/
  previous : Option (Option HubId)
deriving DecidableEq, Repr

namespace Switch

/-- Binds the thread to a hub. -/
def new (h : HubId) : Action Switch := do
  let bound := (← Action.thread).bound
  if bound = some h then return ⟨none⟩
  Action.editThread fun t => { t with bound := some h }
  return ⟨some bound⟩

/-- Brings the binding before a switch back. -/
def drop (s : Switch) : Action Unit :=
  match s.previous with
  | none => return ()
  | some bound => Action.editThread fun t => { t with bound }

end Switch

namespace Program

/-- Runs code in a hub. -/
def runIn (h : HubId) (x : Program σ α) : Program σ α := do
  let switch ← (Switch.new h : Action Switch)
  Run.after x (switch.drop : Action Unit)

/-- Polls tasks in turns until each of them is done, and counts the polls. A poll runs the next step
of a task in its hub; the one after the last step ends the task. `n` bounds the rounds. -/
def pollTasks : Nat → List (HubId × List (Program σ Unit)) → Program σ Nat
  | 0, _ => pure 0
  | n + 1, tasks => do
    if tasks.isEmpty then return 0
    tasks.forM fun (h, steps) => runIn h (steps.head?.getD (pure ()))
    let left := (tasks.filter fun t => !t.2.isEmpty).map fun t => (t.1, t.2.tail)
    return tasks.length + (← pollTasks n left)

/-- Runs tasks bound to hubs side by side, and counts their polls. -/
def interleave (tasks : List (HubId × List (Program σ Unit))) : Program σ Nat :=
  pollTasks (tasks.foldl (fun n t => n + t.2.length + 1) 1) tasks

/-- Runs code on a thread of its own and waits for it. -/
def onThread (x : Program σ α) : Program σ (Except Payload α) := do
  let caller ← (Action.thread : Action ThreadState)
  (Action.editThread (fun _ => .new) : Action Unit)
  let r ← Run.attempt x
  (Action.editThread (fun _ => caller) : Action Unit)
  return r

end Program

end Telemetry
