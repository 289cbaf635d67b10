import MessageFlow.Json.Basic
import MessageFlow.Time.Timestamp

/-!
Executions, one sender's run through one flow, and the tickets that wake an execution parked on a
delay.
-/

namespace MessageFlow

inductive Status where
  | active
  | waiting
  | completed
  | failed
  | paused
  deriving DecidableEq, Repr

namespace Status

def text : Status → String
  | .active => "active"
  | .waiting => "waiting"
  | .completed => "completed"
  | .failed => "failed"
  | .paused => "paused"

def all : List Status := [.active, .waiting, .completed, .failed, .paused]

def ofText? (s : String) : Option Status := all.find? (·.text == s)

@[simp] theorem ofText?_text (status : Status) : ofText? status.text = some status := by
  cases status <;> decide

/-- An execution in a terminal status is never written again. -/
def isTerminal (status : Status) : Bool := status == .completed || status == .failed

def isOpen (status : Status) : Bool := status == .active || status == .waiting

end Status

inductive TicketStatus where
  | pending
  | processing
  | completed
  | failed
  deriving DecidableEq, Repr

namespace TicketStatus

def text : TicketStatus → String
  | .pending => "pending"
  | .processing => "processing"
  | .completed => "completed"
  | .failed => "failed"

def all : List TicketStatus := [.pending, .processing, .completed, .failed]

def ofText? (s : String) : Option TicketStatus := all.find? (·.text == s)

@[simp] theorem ofText?_text (status : TicketStatus) : ofText? status.text = some status := by
  cases status <;> decide

end TicketStatus

/-- The value of a custom field; the four kinds stay apart. -/
inductive FieldValue where
  | flag (value : Bool)
  | int (value : Int)
  | real (value : Binary64)
  | text (value : String)
  deriving DecidableEq, Repr

def FieldValue.isTruthy : FieldValue → Bool
  | .flag value => value
  | .int value => value != 0
  | .real value => !value.isZero
  | .text value => !value.isEmpty

/-- The working memory of a run. -/
structure Context where
  email : Option String := none
  phone : Option String := none
  name : Option String := none
  tags : List String := []
  customFields : Entries FieldValue := []
  lastUserMessage : Option String := none
  triggerType : Option String := none
  triggerPostId : Option String := none
  triggerCommentText : Option String := none
  triggerStoryId : Option String := none
  selectedOptions : List String := []
  extras : Row := []
  deriving DecidableEq

namespace Context

def field? (context : Context) (key : String) : Option FieldValue :=
  Entries.get? context.customFields key

/-- Whether the custom field is set to something other than an empty or zero value. -/
def isSet (context : Context) (key : String) : Bool :=
  (context.field? key).any FieldValue.isTruthy

def setFlag (context : Context) (key : String) (value : Bool) : Context :=
  { context with customFields := Entries.set context.customFields key (.flag value) }

@[simp] theorem field?_setFlag_self (context : Context) (key : String) (value : Bool) :
    (context.setFlag key value).field? key = some (.flag value) :=
  Entries.get?_set_self context.customFields key (.flag value)

theorem field?_setFlag_of_ne (context : Context) {key other : String} (different : other ≠ key)
    (value : Bool) : (context.setFlag key value).field? other = context.field? other :=
  Entries.get?_set_of_ne context.customFields different (.flag value)

end Context

structure Execution where
  id : String
  flowId : String
  userId : Option String
  accountId : String
  senderId : String
  senderUsername : Option String
  currentNodeId : String
  previousNodeIds : List String := []
  status : Status := .active
  context : Context := {}
  /-- Set while the execution is parked on a delay. -/
  scheduledAt : Option Timestamp := none
  scheduledNodeId : Option String := none
  lastError : Option String := none
  /-- Grows by one with every write. -/
  revision : Int := 0
  createdAt : Option Timestamp := none
  updatedAt : Option Timestamp := none
  completedAt : Option Timestamp := none
  extras : Row := []
  deriving DecidableEq

namespace Execution

def isTerminal (execution : Execution) : Bool := execution.status.isTerminal

def isWaitingOnDelay (execution : Execution) : Bool :=
  execution.status == .waiting && execution.scheduledNodeId.isSome

def isWaitingOnInput (execution : Execution) : Bool :=
  execution.status == .waiting && execution.scheduledNodeId.isNone

/-- The ids of the visited nodes, in order. -/
def trail (execution : Execution) : List String :=
  execution.previousNodeIds ++ [execution.currentNodeId]

end Execution

/-- A stored request to resume an execution at a later time. -/
structure Ticket where
  id : String
  executionId : String
  flowId : String
  nodeId : String
  accountId : String
  senderId : String
  executeAt : Timestamp
  status : TicketStatus := .pending
  createdAt : Option Timestamp := none
  processedAt : Option Timestamp := none
  error : Option String := none
  extras : Row := []
  deriving DecidableEq

end MessageFlow
