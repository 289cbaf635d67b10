import MessageFlow.Run.Transition
import MessageFlow.Store.Tickets

/-!
Deleting a flow: its open executions and pending tickets fail, then the flow goes.
-/

namespace MessageFlow.Run
open Operation Store

def flowDeleted : String := "Flow deleted"

def forceFailAttempts : Nat := 3

/-- Fails an open execution, with a fresh copy after every conflict. -/
def forceFail (reason : String) : (attempts : Nat) → Execution → Operation Bool
  | 0, _ => pure false
  | attempts + 1, execution =>
    if execution.isTerminal then pure false
    else do
      match ← Operation.attempt (Run.on execution (fail reason)) with
      | .ok () => pure true
      | .error failure =>
        if failure.isConflict then
          match ← getExecution execution.id with
          | some reloaded => forceFail reason attempts reloaded
          | none => pure false
        else throw failure

/-- Fails the executions and counts those that were open. -/
def forceFailAll (reason : String) : List Execution → Operation Nat
  | [] => pure 0
  | execution :: executions => do
    let failed ← forceFail reason forceFailAttempts execution
    let others ← forceFailAll reason executions
    pure (if failed then others + 1 else others)

/-- Deletes a flow and counts the executions that failed with it. -/
def deleteFlow (flowId : String) : Operation Nat := do
  let now ← now
  let executions ← listOpenExecutions (some flowId) none none
  let failed ← forceFailAll flowDeleted executions
  let _ ← failPendingTickets flowId now flowDeleted
  let _ ← Store.deleteFlow flowId
  pure failed

end MessageFlow.Run
