import Telemetry.Emitter.Basic

/-! What happens to an emitter whose worker was started, one move after the other. Any number of
callers put items and requests into the queue, the worker takes its steps, the time of a batch ends,
and the callers go. The order of the moves is arbitrary, and a move that is not possible at its
turn, such as a task for a full queue, changes nothing. -/

namespace Telemetry

namespace Emitter

variable {α : Type}

/-- A call of the code that takes the batches. -/
structure Call (α : Type) where
  batch : List α
  /-- Whether the code ended with a panic, which the worker stops. -/
  panicked : Bool
deriving DecidableEq, Repr

/-- An emitter, what was put into its queue, and what it handed on. -/
structure History (α : Type) where
  emitter : Emitter α
  /-- Whether anybody is left who can put tasks into the queue. -/
  attached : Bool
  /-- The tasks that were put into the queue, the first one first. -/
  sent : List (Task α)
  /-- The calls that have ended. -/
  calls : List (Call α)

/-- One thing that happens to an emitter. -/
inductive Move (α : Type) where
  | item (a : α)
  | flush
  | shutdown
  /-- The worker takes a step. If that ends a call, the call may have panicked. -/
  | work (panics : Bool)
  | expire
  /-- The last of those who can put tasks into the queue goes. -/
  | leave
  | disconnect
deriving DecidableEq, Repr

namespace History

/-- The worker was just started. -/
def start (c : BatchConfig) : History α :=
  { emitter := (Emitter.new c).start, attached := true, sent := [], calls := [] }

/-- The batches that were taken. -/
def taken (h : History α) : List (List α) := h.calls.map Call.batch

/-- The batches that were handed on; the last one may still be on its way. -/
def handed (h : History α) : List (List α) := h.taken ++ h.emitter.inHand

/-- Whether the queue takes a task. -/
def admits (h : History α) : Bool := h.attached && h.emitter.isOpen && !h.emitter.isFull

/-- Puts an item into the queue. -/
def send (a : α) (h : History α) : History α :=
  { h with emitter := h.emitter.put (.item a), sent := h.sent ++ [.item a] }

/-- Puts a request with a new ticket into the queue. -/
def ask (task : Nat → Task α) (h : History α) : History α :=
  let ticket := h.emitter.tickets
  { h with
    emitter := { h.emitter.put (task ticket) with tickets := ticket + 1 }
    sent := h.sent ++ [task ticket] }

/-- A step of the worker. -/
def work (panics : Bool) (h : History α) : History α :=
  match h.emitter.step? with
  | none => h
  | some (none, e) => { h with emitter := e }
  | some (some batch, e) => { h with emitter := e, calls := h.calls ++ [⟨batch, panics⟩] }

/-- What a move makes of a history. -/
def move (h : History α) : Move α → History α
  | .item a => if h.admits then h.send a else h
  | .flush => if h.admits then h.ask .flush else h
  | .shutdown => if h.admits then h.ask .shutdown else h
  | .work panics => h.work panics
  | .expire => { h with emitter := h.emitter.expire }
  | .leave => { h with attached := false }
  | .disconnect => if h.attached then h else { h with emitter := h.emitter.disconnect }

/-- The history of an emitter after some moves. -/
def after (c : BatchConfig) (moves : List (Move α)) : History α := moves.foldl move (start c)

end History

/-! ### Tasks and tickets -/

@[simp] theorem items_nil : items ([] : List (Task α)) = [] := rfl

@[simp] theorem items_append (xs ys : List (Task α)) : items (xs ++ ys) = items xs ++ items ys := by
  simp [items]

@[simp] theorem items_item_cons (a : α) (ts : List (Task α)) :
    items (.item a :: ts) = a :: items ts := rfl

theorem items_request_cons {task : Task α} {t : Nat} (h : task.ticket? = some t)
    (ts : List (Task α)) : items (task :: ts) = items ts := by
  cases task
  · cases h
  · rfl
  · rfl

/-- The tickets of the requests among some tasks. -/
def ticketsOf (tasks : List (Task α)) : List Nat := tasks.filterMap Task.ticket?

@[simp] theorem ticketsOf_nil : ticketsOf ([] : List (Task α)) = [] := rfl

@[simp] theorem ticketsOf_item_cons (a : α) (ts : List (Task α)) :
    ticketsOf (.item a :: ts) = ticketsOf ts := rfl

@[simp] theorem ticketsOf_append (xs ys : List (Task α)) :
    ticketsOf (xs ++ ys) = ticketsOf xs ++ ticketsOf ys := by
  simp [ticketsOf]

theorem ticketsOf_request_cons {task : Task α} {t : Nat} (h : task.ticket? = some t)
    (ts : List (Task α)) : ticketsOf (task :: ts) = t :: ticketsOf ts := by
  simp [ticketsOf, h]

theorem mem_ticketsOf {task : Task α} {t : Nat} {ts : List (Task α)} (hm : task ∈ ts)
    (ht : task.ticket? = some t) : t ∈ ticketsOf ts :=
  List.mem_filterMap.mpr ⟨task, hm, ht⟩

end Emitter

/-- The tickets of a round, answered at its end or not. -/
def Round.tickets (r : Round) : List Nat := r.ticket :: r.flushes ++ r.shutdown.toList

theorem Round.mem_tickets_of_mem_answers {r : Round} {t : Nat} (h : t ∈ r.answers) :
    t ∈ r.tickets := by
  unfold answers at h
  split at h
  · simp only [List.append_nil, List.mem_cons] at h
    simp only [tickets, List.cons_append, List.mem_cons, List.mem_append]
    exact h.imp_right .inl
  · exact h

namespace Resume

/-- The tickets of the round in which a worker goes on. -/
def tickets : Resume → List Nat
  | .draining r _ => r.tickets
  | .finish r => r.tickets
  | _ => []

/-- Whether a worker goes on by answering or stopping, for which its batch must be empty. -/
def settles : Resume → Bool
  | .finish _ => true
  | .stop => true
  | _ => false

end Resume

namespace Worker

variable {α : Type}

/-- The tickets of the round in which a worker is. -/
def tickets : Worker α → List Nat
  | .draining r _ => r.tickets
  | .calling _ next => next.tickets
  | _ => []

/-- Whether a worker may have a batch in the making. -/
def collects : Worker α → Bool
  | .idle => true
  | .draining _ _ => true
  | _ => false

end Worker

end Telemetry
