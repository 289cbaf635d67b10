import MessageFlow.Account.Lookup
import MessageFlow.Run.Traversal
import MessageFlow.Store.Tickets

/-!
The sweep over due tickets. A ticket is claimed before anything else is done with it; a ticket that
fails does not hold up the others.
-/

namespace MessageFlow.Sweep
open Operation Store

def defaultAttempts : Nat := 3

def executionNotFound : String := "Execution not found"
def accountNotFound : String := "Account not found"
def notWaiting : String := "Execution is not waiting on this delay"
def keptChanging : String := "Execution kept changing"

/-- Marks a ticket; that it could not be marked does not matter. -/
def finish (ticket : Ticket) (status : TicketStatus) (error : Option String) : Operation Unit := do
  let now ← now
  let _ ← attempt (finishTicket ticket.id status now error)

def failTicket (ticket : Ticket) (reason : String) : Operation Bool := do
  finish ticket .failed (some reason)
  pure false

def isParkedOn (execution : Execution) (ticket : Ticket) : Bool :=
  execution.status == .waiting && execution.scheduledNodeId == some ticket.nodeId

/-- The execution as it is when it leaves the delay. -/
def wake (execution : Execution) (ticket : Ticket) (now : Timestamp) : Execution :=
  { execution with
    status := .active
    scheduledAt := none
    scheduledNodeId := none
    currentNodeId := ticket.nodeId
    updatedAt := some now }

/-- Wakes the execution of a claimed ticket and continues it, with a fresh copy after every
conflict. The flow is loaded once. -/
def resumeExecution (deployment : Deployment) (account : Account) (ticket : Ticket) :
    (attempts : Nat) → (flow : Option Flow) → Execution → Operation Bool
  | 0, _, _ => failTicket ticket keptChanging
  | attempts + 1, known, execution =>
    if isParkedOn execution ticket then do
      match ← flowOr known execution.flowId with
      | none =>
        Run.on execution (Run.fail Run.flowNotFound)
        failTicket ticket Run.flowNotFound
      | some flow =>
        let now ← now
        let outcome ← Run.on (wake execution ticket now) do
          match ← Run.attempt saveExecution with
          | .ok () =>
            Run.resume deployment account (some flow)
            pure true
          | .error failure => if failure.isConflict then pure false else throw failure
        if outcome then
          finish ticket .completed none
          pure true
        else
          match ← getExecution ticket.executionId with
          | some reloaded => resumeExecution deployment account ticket attempts (some flow) reloaded
          | none => failTicket ticket executionNotFound
    else failTicket ticket notWaiting

/-- Resumes the execution of a claimed ticket and tells whether the ticket was completed. -/
def resume (deployment : Deployment) (attempts : Nat) (ticket : Ticket) : Operation Bool := do
  match ← getExecution ticket.executionId with
  | none => failTicket ticket executionNotFound
  | some execution =>
    match ← AccountLookup.get ticket.accountId with
    | none => failTicket ticket accountNotFound
    | some account => resumeExecution deployment account ticket attempts none execution

/-- Claims a ticket and resumes its execution. -/
def claimAndResume (deployment : Deployment) (attempts : Nat) (ticket : Ticket) :
    Operation Bool := do
  if ← claimTicket ticket.id then resume deployment attempts ticket
  else pure false

/-- Processes a ticket; a failure of whatever kind fails the ticket. -/
def processOne (deployment : Deployment) (attempts : Nat) (ticket : Ticket) : Operation Bool := do
  match ← attempt (claimAndResume deployment attempts ticket) with
  | .ok completed => pure completed
  | .error failure => failTicket ticket failure.record

/-- Processes tickets in turn and counts those completed. -/
def processAll (deployment : Deployment) (attempts : Nat) : List Ticket → Operation Nat
  | [] => pure 0
  | ticket :: tickets => do
    let completed ← processOne deployment attempts ticket
    let others ← processAll deployment attempts tickets
    pure (if completed then others + 1 else others)

/-- Resumes the executions whose tickets are due, up to the batch size, and counts the tickets
completed. -/
def process (deployment : Deployment) (attempts : Nat) (at? : Option Timestamp) :
    Operation Nat := do
  let time ← timeOr at?
  let tickets ← dueTickets time deployment.batchSize
  processAll deployment attempts tickets

end MessageFlow.Sweep
