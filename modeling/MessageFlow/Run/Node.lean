import MessageFlow.Execution.Condition
import MessageFlow.Run.Action
import MessageFlow.Run.Message
import MessageFlow.Run.Transition
import MessageFlow.Store.Tickets

/-!
The execution of one node.
-/

namespace MessageFlow

/-- How a run goes on after a node. -/
inductive NodeOutcome where
  | proceed
  | branch (condition : Bool)
  | suspend
  | failed (error : String)
  deriving DecidableEq, Repr

namespace NodeOutcome

def branch? : NodeOutcome → Option Bool
  | .branch condition => some condition
  | _ => none

def error? : NodeOutcome → Option String
  | .failed error => some error
  | _ => none

def continues : NodeOutcome → Bool
  | .proceed | .branch _ => true
  | .suspend | .failed _ => false

def text : NodeOutcome → String
  | .proceed => "continue"
  | .branch _ => "branch"
  | .suspend => "suspend"
  | .failed _ => "failed"

end NodeOutcome

namespace Run

def ofDelay (result : Except DelayError α) : Run α :=
  match result with
  | .ok value => pure value
  | .error error => throw (.delay error)

/-- Stores a ticket for the end of the delay and parks the execution on it. -/
def startDelay (account : Account) (flow : Flow) (node : Node) : Run Unit := do
  let amount ← ofDelay (Delay.milliseconds node.data.value (.ofText? node.data.delayType))
  let now ← Run.lift Operation.now
  let executeAt ← ofDelay (Delay.wakeTime now amount)
  let id ← Run.lift Operation.freshId
  let execution ← get
  let _ ← Run.lift (Store.createTicket {
    id
    executionId := execution.id
    flowId := flow.id
    nodeId := node.id
    accountId := account.id
    senderId := execution.senderId
    executeAt
    createdAt := some now })
  modify fun execution =>
    { execution with
      status := .waiting, scheduledAt := some executeAt, scheduledNodeId := some node.id }

/-- What a node does, before any failure of it is recorded. -/
def handleNode (deployment : Deployment) (account : Account) (flow : Flow) (node : Node) :
    Run NodeOutcome := do
  match node.kind? with
  | some .message =>
    sendMessage deployment account node
    pure .proceed
  | some .condition => pure (.branch (node.data.holds (← get).context))
  | some .delay =>
    startDelay account flow node
    pure .suspend
  | some .action =>
    performAction deployment account node.data
    if awaitsReply node.data then
      modify fun execution =>
        { execution with status := .waiting, scheduledAt := none, scheduledNodeId := none }
      pure .suspend
    else pure .proceed
  | some .trigger | none => pure .proceed

/-- Executes a node. A failure other than a conflict fails the execution. -/
def executeNode (deployment : Deployment) (account : Account) (flow : Flow) (node : Node) :
    Run NodeOutcome := do
  match ← attempt (handleNode deployment account flow node) with
  | .ok outcome => pure outcome
  | .error failure =>
    if failure.isConflict then throw failure
    else
      fail failure.record
      pure (.failed failure.record)

end Run
end MessageFlow
