import Telemetry.Diagnostic
import Telemetry.Text.Quoted
import Telemetry.Time

/-! Emitters: items go into a bounded queue, one worker takes them out and hands them on in batches.
A batch is handed on when it is full, when its time is over, and when someone asks for it. The
worker goes from one step to the next by itself; what the other side does meanwhile is up to whoever
runs the two. -/

namespace Telemetry

/-- What to do with a new item if the queue is full. -/
inductive QueuePolicy where
  | block
  | dropNewest
deriving DecidableEq, Repr, Inhabited

/-- A policy as debugging output shows it. -/
def QueuePolicy.debug : QueuePolicy → String
  | .block => "Block"
  | .dropNewest => "DropNewest"

/-- How an emitter makes its batches. -/
structure BatchConfig where
  /-- The name of the emitter in diagnostics. -/
  name : String
  /-- The size of a full batch, and the room in the queue. -/
  batchSize : Nat
  /-- Nanoseconds that a batch waits for more items. -/
  batchTimeout : Nat
  policy : QueuePolicy
  size_pos : 0 < batchSize

namespace BatchConfig

/-- The least time a batch waits. -/
def minTimeout : Nat := 1000000

/-- A configuration with at least one item in a batch and the least time. -/
def make (name : String) (batchSize batchTimeout : Nat) (policy : QueuePolicy) : BatchConfig :=
  ⟨name, max batchSize 1, max batchTimeout minTimeout, policy, by omega⟩

instance : Inhabited BatchConfig := ⟨make "" 1 0 .block⟩

/-- A configuration as debugging output shows it. -/
def debug (c : BatchConfig) : String :=
  Quoted.record "BatchConfig" [
    ("name", Quoted.text c.name), ("batch_size", toString c.batchSize),
    ("batch_timeout", durationDebug c.batchTimeout), ("queue_full_policy", c.policy.debug)]

end BatchConfig

/-- What the queue of an emitter holds. A request carries the ticket by which it is answered. -/
inductive Task (α : Type) where
  | item (a : α)
  | flush (ticket : Nat)
  | shutdown (ticket : Nat)
deriving DecidableEq, Repr

/-- The ticket of a request. -/
def Task.ticket? {α : Type} : Task α → Option Nat
  | .item _ => none
  | .flush ticket => some ticket
  | .shutdown ticket => some ticket

/-- A request under way: the queue is emptied up to its room, and the requests found in it are
answered with it. -/
structure Round where
  ticket : Nat
  /-- Whether the request is to shut down. -/
  stops : Bool
  /-- Tickets of flushes found in the queue. -/
  flushes : List Nat
  /-- The ticket of a shutdown found in the queue. -/
  shutdown : Option Nat
deriving DecidableEq, Repr

namespace Round

/-- The tickets that are answered at the end of a round. -/
def answers (r : Round) : List Nat :=
  r.ticket :: r.flushes ++ (if r.stops then [] else r.shutdown.toList)

/-- Whether the worker stops after a round. -/
def ends (r : Round) : Bool := r.stops || r.shutdown.isSome

end Round

/-- Where a worker goes on. -/
inductive Resume where
  | idle
  | draining (r : Round) (room : Nat)
  | finish (r : Round)
  | stop
deriving DecidableEq, Repr

/-- What a worker is doing. -/
inductive Worker (α : Type) where
  /-- Nobody has needed it so far. -/
  | unborn
  /-- It waits for the next task. -/
  | idle
  /-- It empties the queue for a request, taking at most `room` more tasks. -/
  | draining (r : Round) (room : Nat)
  /-- It hands on a batch. -/
  | calling (batch : List α) (next : Resume)
  | exited
deriving DecidableEq, Repr

/-- An emitter and its worker. -/
structure Emitter (α : Type) where
  config : BatchConfig
  /-- Whether new items are taken. -/
  accepting : Bool
  /-- Whether the emitter has let go of its worker. -/
  released : Bool
  /-- Items refused because the queue was full. There is no bound to the count; one of 64 bits would
  start over after `2 ^ 64` of them. -/
  dropped : Nat
  queue : List (Task α)
  /-- The batch in the making. -/
  pending : List α
  worker : Worker α
  /-- Tickets given out. -/
  tickets : Nat
  /-- Tickets answered. -/
  answered : List Nat

namespace Emitter

variable {α : Type}

/-- An emitter that nobody has used. -/
def new (config : BatchConfig) : Emitter α :=
  { config, accepting := true, released := false, dropped := 0, queue := [], pending := [],
    worker := .unborn, tickets := 0, answered := [] }

instance : Inhabited (Emitter α) := ⟨new default⟩

/-- An emitter as debugging output shows it. -/
def debug (e : Emitter α) : String :=
  Quoted.record "BatchEmitter" [
    ("config", e.config.debug), ("accepting", Quoted.bool e.accepting),
    ("dropped", toString e.dropped)]

/-! ### The worker -/

/-- Lets the worker start, unless it has started or will never do so. It does start: that the system
has no thread for it, upon which the emitter would accept nothing more, is left out. -/
def start (e : Emitter α) : Emitter α :=
  match e.worker with
  | .unborn => if e.released then e else { e with worker := .idle }
  | _ => e

/-- Where the worker goes on; the requests of a finished round are answered. -/
def resume (next : Resume) (e : Emitter α) : Emitter α :=
  match next with
  | .idle => { e with worker := .idle }
  | .draining r room => { e with worker := .draining r room }
  | .finish r =>
    { e with
      answered := e.answered ++ r.answers
      worker := if r.ends then .exited else .idle }
  | .stop => { e with worker := .exited }

/-- Hands on the batch in the making, if there is one, before the worker goes on. -/
def flushThen (next : Resume) (e : Emitter α) : Emitter α :=
  if e.pending.isEmpty then e.resume next
  else { e with pending := [], worker := .calling e.pending next }

/-- Puts an item into the batch, and hands the batch on once it is full. -/
def collect (a : α) (next : Resume) (e : Emitter α) : Emitter α :=
  let e := { e with pending := e.pending ++ [a] }
  if e.config.batchSize ≤ e.pending.length then e.flushThen next else e.resume next

/-- The next step of the worker, and the batch that it handed on with it. It has none while it waits
for tasks, and before it starts and after it stops. -/
def step? (e : Emitter α) : Option (Option (List α) × Emitter α) :=
  match e.worker with
  | .unborn => none
  | .exited => none
  | .calling batch next => some (some batch, e.resume next)
  | .idle =>
    match e.queue with
    | [] => none
    | .item a :: rest => some (none, { e with queue := rest }.collect a .idle)
    | .flush t :: rest =>
      some (none,
        { e with queue := rest, worker := .draining ⟨t, false, [], none⟩ e.config.batchSize })
    | .shutdown t :: rest =>
      some (none,
        { e with queue := rest, worker := .draining ⟨t, true, [], none⟩ e.config.batchSize })
  | .draining r 0 => some (none, e.flushThen (.finish r))
  | .draining r (room + 1) =>
    match e.queue with
    | [] => some (none, e.flushThen (.finish r))
    | .item a :: rest => some (none, { e with queue := rest }.collect a (.draining r room))
    | .flush t :: rest =>
      some (none,
        { e with queue := rest, worker := .draining { r with flushes := r.flushes ++ [t] } room })
    | .shutdown t :: rest =>
      some (none,
        { e with queue := rest, worker := .draining { r with shutdown := some t } room })

/-- The end of a batch's time: a worker that waits for tasks hands the batch on. -/
def expire (e : Emitter α) : Emitter α :=
  match e.worker, e.queue with
  | .idle, [] => e.flushThen .idle
  | _, _ => e

/-- The end of the queue: when nobody is left to put tasks into it, a worker that waits for tasks
hands the batch on and stops. -/
def disconnect (e : Emitter α) : Emitter α :=
  match e.worker, e.queue with
  | .idle, [] => e.flushThen .stop
  | _, _ => e

/-- Up to `n` steps of the worker, and the batches that it handed on. -/
def run : Nat → Emitter α → List (List α) × Emitter α
  | 0, e => ([], e)
  | n + 1, e =>
    match e.step? with
    | none => ([], e)
    | some (batch, e) =>
      let (batches, e) := run n e
      (batch.toList ++ batches, e)

/-- Whether the worker is handing on a batch. -/
def isCalling (e : Emitter α) : Bool :=
  match e.worker with
  | .calling _ _ => true
  | _ => false

/-- The batch that the worker is handing on, if there is one. -/
def inHand (e : Emitter α) : List (List α) :=
  match e.worker with
  | .calling batch _ => [batch]
  | _ => []

/-- Up to `n` steps of the worker, none of which gets past a batch. -/
def runHeld : Nat → Emitter α → Emitter α
  | 0, e => e
  | n + 1, e =>
    if e.isCalling then e
    else match e.step? with
      | none => e
      | some (_, e) => runHeld n e

/-- How far the worker gets while the other side waits or works. -/
structure Turn where
  steps : Nat
  /-- Whether whoever takes the batches takes none for now. -/
  held : Bool
  /-- Whether the time of a batch is over in the end. -/
  expires : Bool
deriving DecidableEq, Repr, Inhabited

/-- One turn of the worker. -/
def turn (t : Turn) (e : Emitter α) : List (List α) × Emitter α :=
  let (batches, e) := if t.held then ([], e.runHeld t.steps) else e.run t.steps
  (batches, if t.expires then e.expire else e)

/-- How far workers get in the course of a computation: a turn for each place in it, a place being
given by the numbers of the parts that lead to it. -/
abbrev Pace := List Nat → Turn

namespace Pace

/-- The turn at the place itself. -/
def turn (p : Pace) : Turn := p []

/-- The places inside a part. -/
def sub (p : Pace) (i : Nat) : Pace := fun path => p (i :: path)

end Pace

/-! ### The other side -/

/-- Whether a worker is there to take tasks, or can still start. -/
def isOpen (e : Emitter α) : Bool :=
  match e.worker with
  | .exited => false
  | _ => true

/-- Whether the queue has no more room. -/
def isFull (e : Emitter α) : Bool := decide (e.config.batchSize ≤ e.queue.length)

/-- Puts a task at the end of the queue. -/
def put (t : Task α) (e : Emitter α) : Emitter α := { e with queue := e.queue ++ [t] }

/-- What an operation returned, the batches handed on meanwhile, and the emitter after it. -/
structure Outcome (α β : Type) where
  result : β
  batches : List (List α)
  emitter : Emitter α

/-- What became of an item. -/
inductive Enqueued where
  | accepted
  /-- The emitter takes no more items. -/
  | closed
  /-- There was no room; so many items have been refused. -/
  | full (dropped : Nat)
  /-- The worker has gone. -/
  | gone
deriving DecidableEq, Repr

/-- Whether an item was taken. -/
def Enqueued.isAccepted (r : Enqueued) : Bool := r = .accepted

/-- What is said about a refused item. -/
def Enqueued.diagnostics (name : String) : Enqueued → List Diagnostic
  | .closed => [.debug ("[Emitter(" ++ name ++ ")] Rejected item, emitter is shut down")]
  | .full n =>
    [.debug ("[Emitter(" ++ name ++ ")] Queue full, dropped item (" ++ toString n ++
      " dropped so far)")]
  | _ => []

/-- Steps after which a worker that is not held up has taken a task from a full queue or stopped. -/
def roomSteps : Nat := 6

/-- Waits for room in the queue. -/
def awaitRoom : Nat → Emitter α → List (List α) × Emitter α
  | 0, e => ([], e)
  | n + 1, e =>
    if !e.isOpen || !e.isFull then ([], e)
    else
      let (batches, e) := e.run 1
      let (more, e) := awaitRoom n e
      (batches ++ more, e)

/-- Offers an item. -/
def enqueue (pace : Pace) (a : α) (e : Emitter α) : Outcome α Enqueued :=
  if !e.accepting then ⟨.closed, [], e⟩
  else
    let e := e.start
    let (before, e) := e.turn pace.turn
    match e.config.policy with
    | .block =>
      let (batches, e) := awaitRoom roomSteps e
      if e.isOpen then ⟨.accepted, before ++ batches, e.put (.item a)⟩
      else ⟨.gone, before ++ batches, e⟩
    | .dropNewest =>
      if !e.isOpen then ⟨.gone, before, e⟩
      else if e.isFull then
        let e := { e with dropped := e.dropped + 1 }
        ⟨.full e.dropped, before, e⟩
      else ⟨.accepted, before, e.put (.item a)⟩

/-- What became of a request. -/
inductive Requested where
  | answered
  /-- The time was over before the worker answered. -/
  | unanswered
  /-- There was no room for it in time, or no worker. -/
  | unsent
deriving DecidableEq, Repr

/-- Sends a request and waits for the answer, as far as the worker gets in time. -/
def request (pace : Pace) (task : Nat → Task α) (e : Emitter α) :
    Outcome α Requested :=
  let (before, e) := e.turn (pace.sub 0).turn
  if !e.isOpen || e.isFull then ⟨.unsent, before, e⟩
  else
    let ticket := e.tickets
    let e := { e.put (task ticket) with tickets := ticket + 1 }
    let (batches, e) := e.turn (pace.sub 1).turn
    ⟨if e.answered.contains ticket then .answered else .unanswered, before ++ batches, e⟩

/-- Waits until everything taken so far is handed on; an emitter that is shut down has nothing left
to hand on. -/
def flush (pace : Pace) (e : Emitter α) : Outcome α Bool :=
  if !e.accepting then ⟨true, [], e⟩
  else
    let r := e.start.request pace .flush
    ⟨r.result = .answered, r.batches, r.emitter⟩

/-- The items of a queue. -/
def items (tasks : List (Task α)) : List α :=
  tasks.filterMap fun | .item a => some a | _ => none

/-- What became of a shutdown. -/
inductive Stopped where
  /-- There was nothing to do. -/
  | already
  /-- There was no worker yet; what was left went out in one batch. -/
  | unstarted
  | requested (r : Requested)
deriving DecidableEq, Repr

namespace Stopped

/-- Whether everything was handed on in time. -/
def isDone : Stopped → Bool
  | .requested r => r = .answered
  | _ => true

/-- What is said about a shutdown. -/
def diagnostics (name : String) : Stopped → List Diagnostic
  | .requested .unanswered =>
    [.debug ("[Emitter(" ++ name ++ ")] Shutdown timed out, detaching worker")]
  | _ => []

end Stopped

/-- Takes no more items, hands on what is left and stops the worker. Only the first call does any
work. -/
def shutdown (pace : Pace) (e : Emitter α) : Outcome α Stopped :=
  if !e.accepting then ⟨.already, [], e⟩
  else
    let e := { e with accepting := false }
    if e.released then ⟨.already, [], e⟩
    else
      let e := { e with released := true }
      match e.worker with
      | .unborn =>
        let left := items e.queue
        ⟨.unstarted, if left.isEmpty then [] else [left],
          { e with queue := [], worker := .exited }⟩
      | _ =>
        let r := e.request pace .shutdown
        ⟨.requested r.result, r.batches, r.emitter⟩

end Emitter

end Telemetry
