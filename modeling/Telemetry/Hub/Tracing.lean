import Telemetry.Hub.Capture

/-! Transactions in hubs: the client of a hub decides whether a new one is sampled, and gets its
event when it is finished, with whatever scope is current then. -/

namespace Telemetry.Action

/-- Starts a transaction. Without a client it is sampled if the trace that it continues is. -/
def startTransaction (t : Target) (c : TransactionContext) : Action Node := do
  let id ← t.visit none fun h => return (← top h).client
  let sampled ← match ← id.bindM client? with
    | some client => draw (client.sampleTransaction c)
    | none => pure (c.sampled.getD false)
  let spanId ← draw Fresh.spanId
  let transaction := Transaction.start id sampled c spanId (← now)
  .modifyGet fun w =>
    let (n, traces) := w.traces.addTransaction transaction
    (n, { w with traces })

/-- Starts a span below a node. -/
def startChild (n : Node) (op description : String) : Action (Option Node) := do
  let spanId ← draw Fresh.spanId
  let now ← now
  .modifyGet fun w =>
    match w.traces.startChild n op description spanId now with
    | some (n, traces) => (some n, { w with traces })
    | none => (none, w)

/-- Finishes a node. A transaction that is sampled is sent when it is first finished. -/
def finish (n : Node) : Action Unit := do
  match n with
  | .span i =>
    let now ← now
    editTraces (Traces.finishSpan i now)
  | .transaction i =>
    let blank ← blankEvent
    let sent ← .modifyGet fun w =>
      let (sent, traces) := w.traces.finishTransaction i blank
      (sent, { w with traces })
    if let some (client, event) := sent then
      let scope := (← top (← currentHub)).scope
      discard <| processEvent client (some scope) .none event

end Telemetry.Action
