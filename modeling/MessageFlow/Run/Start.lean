import MessageFlow.Flow.Event
import MessageFlow.Run.Traversal

/-!
Starting flows for an event.
-/

namespace MessageFlow.Run
open Operation Store

/-- The execution with which a flow starts at a trigger node. The context is read before the
sender. -/
def initialExecution (flow : Flow) (trigger : Node) (event : TriggerEvent) (id : String)
    (now : Timestamp) : Operation Execution := do
  let context ← ofValidated Context.title event.context
  let (senderId, senderUsername) ← ofValidated Execution.title event.sender
  pure {
    id
    flowId := flow.id
    userId := flow.userId
    accountId := flow.accountId
    senderId
    senderUsername
    currentNodeId := trigger.id
    context
    createdAt := some now
    updatedAt := some now }

/-- Starts a flow at its first matching trigger; none when there is no such trigger. Its traversal
begins when the execution is stored; that the start could not be counted does not matter. -/
def start (deployment : Deployment) (account : Account) (flow : Flow) (event : TriggerEvent)
    (keywords : List String) : Operation (Option Execution) := do
  match event.triggers keywords flow with
  | [] => pure none
  | trigger :: _ =>
    let now ← now
    let id ← freshId
    let execution ← createExecution (← initialExecution flow trigger event id now)
    Run.on execution do
      traversing do
        let _ ← Run.attempt (Run.lift (recordTrigger flow now))
        resume deployment account (some flow)
      pure (some (← get))

/-- Starts every flow of the list that the event matches. A flow that fails is passed over. -/
def startAll (deployment : Deployment) (account : Account) (event : TriggerEvent)
    (keywords : List String) : List Flow → Operation (List Execution)
  | [] => pure []
  | flow :: flows => do
    let started ← Operation.attempt (start deployment account flow event keywords)
    let others ← startAll deployment account event keywords flows
    match started with
    | .ok (some execution) => pure (execution :: others)
    | _ => pure others

/-- Starts the active flows of the account that have a trigger for the event. -/
def trigger (deployment : Deployment) (account : Account) (event : TriggerEvent) :
    Operation (List Execution) := do
  match event.keywords with
  | .error value => throw (.wordsOf value)
  | .ok keywords =>
    let flows ← listActiveFlows account.id
    startAll deployment account event keywords flows

end MessageFlow.Run
