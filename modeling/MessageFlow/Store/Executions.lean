import MessageFlow.Execution.Document
import MessageFlow.Store.Flows

/-!
Stored executions. A write is guarded by the revision that the writer has seen.
-/

namespace MessageFlow.Store
open Operation

def createExecution (execution : Execution) : Operation Execution := do
  ensureWritable execution
  let rows ← query (.insert .executions execution.row)
  match rows with
  | [] => pure execution
  | row :: _ => parse row

def getExecution (id : String) : Operation (Option Execution) := do
  let rows ← query (.select .executions [byId id] none (some 1))
  match rows with
  | [] => pure none
  | row :: _ => some <$> parse row

/-- The write of an execution over the revision it was read at. -/
def saveQuery (execution : Execution) : Query :=
  .update .executions [byId execution.id, .equals "revision" (.int execution.revision)]
    (Entries.set execution.row "revision" (.int (execution.revision + 1)))

/-- Writes the execution object. It moves to the next revision, unless the stored row has changed
since it was read. -/
def saveExecution : Run Unit := do
  let execution ← get
  Run.lift (ensureWritable execution)
  let rows ← Run.lift (query (saveQuery execution))
  if rows.isEmpty then throw (.conflict execution.id execution.revision)
  else set { execution with revision := execution.revision + 1 }

/-- A filter on a column, unless the wanted value is absent or empty. -/
def optionalFilter (column : String) (value : Option String) : List Filter :=
  match value with
  | some text => if text.isEmpty then [] else [.equals column (.text text)]
  | none => []

/-- The active and waiting executions, newest first. -/
def listOpenExecutions (flowId accountId senderId : Option String) :
    Operation (List Execution) := do
  let rows ← query (.select .executions
    (.oneOf "status" [Status.active.text, Status.waiting.text] ::
      (optionalFilter "flow_id" flowId ++ optionalFilter "account_id" accountId ++
        optionalFilter "sender_id" senderId))
    (some ⟨"created_at", true⟩) none)
  rows.mapM parse

end MessageFlow.Store
