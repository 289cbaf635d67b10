import MessageFlow.Store.Executions

/-!
Writes of an execution: a plain save, completion and failure.
-/

namespace MessageFlow.Run
open Operation Store

/-- Writes the execution with the present time. -/
def save : Run Unit := do
  let now ← Run.lift now
  modify fun execution => { execution with updatedAt := some now }
  saveExecution

def complete : Run Unit := do
  let now ← Run.lift now
  modify fun execution =>
    { execution with
      status := .completed
      completedAt := some now
      scheduledAt := none
      scheduledNodeId := none }
  save

def fail (error : String) : Run Unit := do
  modify fun execution => { execution with status := .failed, lastError := some error }
  save

end MessageFlow.Run
