import MessageFlow.Store.Executions

/-!
Stored tickets. A ticket is claimed by moving it from pending to processing.
-/

namespace MessageFlow.Store
open Operation

def createTicket (ticket : Ticket) : Operation Ticket := do
  ensureWritable ticket
  let rows ← query (.insert .tickets ticket.row)
  match rows with
  | [] => pure ticket
  | row :: _ => parse row

def pending : Filter := .equals "status" (.text TicketStatus.pending.text)

def dueQuery (now : Timestamp) (limit : Int) : Query :=
  .select .tickets [pending, .notAfter "execute_at" now] none (some limit)

/-- Pending tickets whose time has come. -/
def dueTickets (now : Timestamp) (limit : Int) : Operation (List Ticket) := do
  let rows ← query (dueQuery now limit)
  rows.mapM parse

def claimQuery (id : String) : Query :=
  .update .tickets [byId id, pending] [("status", .text TicketStatus.processing.text)]

/-- Claims a pending ticket; false when it is pending no more. -/
def claimTicket (id : String) : Operation Bool := do
  let rows ← query (claimQuery id)
  pure !rows.isEmpty

/-- The last status of a ticket, with an error unless it is empty. -/
def finishQuery (id : String) (status : TicketStatus) (time : Timestamp) (error : Option String) :
    Query :=
  let errorColumn := match error with
    | some text => if text.isEmpty then [] else [("error", Json.text text)]
    | none => []
  .update .tickets [byId id]
    ([("status", .text status.text), ("processed_at", .text time.columnText)] ++ errorColumn)

def finishTicket (id : String) (status : TicketStatus) (time : Timestamp) (error : Option String) :
    Operation Unit := do
  let _ ← query (finishQuery id status time error)

def failPendingQuery (flowId : String) (time : Timestamp) (error : String) : Query :=
  .update .tickets [.equals "flow_id" (.text flowId), pending]
    [("status", .text TicketStatus.failed.text), ("processed_at", .text time.columnText),
     ("error", .text error)]

/-- Fails the pending tickets of a flow and counts them. -/
def failPendingTickets (flowId : String) (time : Timestamp) (error : String) : Operation Nat := do
  let rows ← query (failPendingQuery flowId time error)
  pure rows.length

end MessageFlow.Store
