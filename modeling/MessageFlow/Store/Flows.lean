import MessageFlow.Flow.Document
import MessageFlow.Program.Basic
import MessageFlow.Time.Text

/-!
Stored flows.
-/

namespace MessageFlow.Store
open Operation

def byId (id : String) : Filter := .equals "id" (.text id)

def flowQuery (id : String) : Query := .select .flows [byId id] none (some 1)

def getFlow (id : String) : Operation (Option Flow) := do
  let rows ← query (flowQuery id)
  match rows with
  | [] => pure none
  | row :: _ => some <$> parse row

/-- A flow that is known already, or else the stored one. -/
def flowOr (known : Option Flow) (id : String) : Operation (Option Flow) :=
  match known with
  | some flow => pure (some flow)
  | none => getFlow id

/-- The active flows of an account, oldest first. -/
def listActiveFlows (accountId : String) : Operation (List Flow) := do
  let rows ← query (.select .flows
    [.equals "account_id" (.text accountId), .equals "is_active" (.bool true)]
    (some ⟨"created_at", false⟩) none)
  rows.mapM parse

/-- Counts one more start; the count is read and written in two steps. -/
def recordTrigger (flow : Flow) (time : Timestamp) : Operation Unit := do
  let current ← getFlow flow.id
  let count := (current.map (·.triggerCount)).getD flow.triggerCount
  let _ ← query (.update .flows [byId flow.id]
    [("trigger_count", .int (count + 1)), ("last_triggered_at", .text time.columnText)])

def deleteFlow (id : String) : Operation Bool := do
  let rows ← query (.delete .flows [byId id])
  pure !rows.isEmpty

end MessageFlow.Store
