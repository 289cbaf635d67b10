import MessageFlow.Document.Names
import MessageFlow.Execution.Basic

/-!
Reading and writing executions and tickets.
-/

namespace MessageFlow
open Document

namespace FieldValue

def read : ValueReader FieldValue
  | .bool value => .valid (.flag value)
  | .int value => .valid (.int value)
  | .real value => .valid (.real value)
  | .text value => .valid (.text value)
  | value => .invalid [⟨.boolType, [.key "bool"], value⟩, ⟨.intType, [.key "int"], value⟩,
      ⟨.realType, [.key "float"], value⟩, ⟨.textType, [.key "str"], value⟩]

def write : FieldValue → Json
  | .flag value => .bool value
  | .int value => .int value
  | .real value => .real value
  | .text value => .text value

def readEntries : Row → Validated (Entries FieldValue)
  | [] => .valid []
  | (key, value) :: rest =>
    (fun first others => (key, first) :: others) <$> (read value).under (.key key)
      <*> readEntries rest

def readMap : ValueReader (Entries FieldValue)
  | .record fields => readEntries fields
  | value => .refuse .recordType value

def writeMap (entries : Entries FieldValue) : Json :=
  .record (entries.map fun (key, value) => (key, value.write))

end FieldValue

namespace Context

def title : String := "ExecutionContext"

def names : List FieldName :=
  [Field.email, Field.phone, Field.name, Field.tags, Field.customFields, Field.lastUserMessage,
   Field.triggerType, Field.triggerPostId, Field.triggerCommentText, Field.triggerStoryId,
   Field.selectedOptions]

def read : ValueReader Context := object title names fun doc =>
  Context.mk <$> maybe Field.email asText doc
    <*> maybe Field.phone asText doc
    <*> maybe Field.name asText doc
    <*> withDefault Field.tags [] (listOf asText) doc
    <*> withDefault Field.customFields [] FieldValue.readMap doc
    <*> maybe Field.lastUserMessage asText doc
    <*> maybe Field.triggerType asText doc
    <*> maybe Field.triggerPostId asText doc
    <*> maybe Field.triggerCommentText asText doc
    <*> maybe Field.triggerStoryId asText doc
    <*> withDefault Field.selectedOptions [] (listOf asText) doc

def fields (context : Context) : List (FieldName × Json) :=
  [(Field.email, .ofText? context.email),
   (Field.phone, .ofText? context.phone),
   (Field.name, .ofText? context.name),
   (Field.tags, .ofTexts context.tags),
   (Field.customFields, FieldValue.writeMap context.customFields),
   (Field.lastUserMessage, .ofText? context.lastUserMessage),
   (Field.triggerType, .ofText? context.triggerType),
   (Field.triggerPostId, .ofText? context.triggerPostId),
   (Field.triggerCommentText, .ofText? context.triggerCommentText),
   (Field.triggerStoryId, .ofText? context.triggerStoryId),
   (Field.selectedOptions, .ofTexts context.selectedOptions)]

def write (naming : Naming) (context : Context) : Json :=
  Document.write naming (fields context) context.extras

instance : DocumentType Context where
  title := title
  read := read
  write := write
  loose context := context.extras.map (·.2)

end Context

namespace Execution

def title : String := "FlowExecution"

def readStatus : ValueReader Status := oneOf (Status.all.map Status.text) Status.ofText?

def names : List FieldName :=
  [Field.id, Field.flowId, Field.userId, Field.accountId, Field.senderId, Field.senderUsername,
   Field.currentNodeId, Field.previousNodeIds, Field.status, Field.context, Field.scheduledAt,
   Field.scheduledNodeId, Field.lastError, Field.revision, Field.createdAt, Field.updatedAt,
   Field.completedAt]

def read : ValueReader Execution := object title names fun doc =>
  Execution.mk <$> required Field.id asText doc
    <*> required Field.flowId asText doc
    <*> maybe Field.userId asText doc
    <*> required Field.accountId asText doc
    <*> required Field.senderId asText doc
    <*> maybe Field.senderUsername asText doc
    <*> required Field.currentNodeId asText doc
    <*> withDefault Field.previousNodeIds [] (listOf asText) doc
    <*> withDefault Field.status .active readStatus doc
    <*> withDefault Field.context {} Context.read doc
    <*> maybe Field.scheduledAt asTime doc
    <*> maybe Field.scheduledNodeId asText doc
    <*> maybe Field.lastError asText doc
    <*> withDefault Field.revision 0 asInt doc
    <*> maybe Field.createdAt asTime doc
    <*> maybe Field.updatedAt asTime doc
    <*> maybe Field.completedAt asTime doc

def fields (naming : Naming) (execution : Execution) : List (FieldName × Json) :=
  [(Field.id, .text execution.id),
   (Field.flowId, .text execution.flowId),
   (Field.userId, .ofText? execution.userId),
   (Field.accountId, .text execution.accountId),
   (Field.senderId, .text execution.senderId),
   (Field.senderUsername, .ofText? execution.senderUsername),
   (Field.currentNodeId, .text execution.currentNodeId),
   (Field.previousNodeIds, .ofTexts execution.previousNodeIds),
   (Field.status, .text execution.status.text),
   (Field.context, execution.context.write naming),
   (Field.scheduledAt, ofTime? execution.scheduledAt),
   (Field.scheduledNodeId, .ofText? execution.scheduledNodeId),
   (Field.lastError, .ofText? execution.lastError),
   (Field.revision, .int execution.revision),
   (Field.createdAt, ofTime? execution.createdAt),
   (Field.updatedAt, ofTime? execution.updatedAt),
   (Field.completedAt, ofTime? execution.completedAt)]

def write (naming : Naming) (execution : Execution) : Json :=
  Document.write naming (fields naming execution) execution.extras

/-- The row under which the execution is stored. -/
def row (execution : Execution) : Row :=
  Document.members .columns (fields .columns execution) execution.extras

instance : DocumentType Execution where
  title := title
  read := read
  write := write
  loose execution := (execution.context.extras ++ execution.extras).map (·.2)

end Execution

namespace Ticket

def title : String := "ScheduledExecution"

def readStatus : ValueReader TicketStatus :=
  oneOf (TicketStatus.all.map TicketStatus.text) TicketStatus.ofText?

def names : List FieldName :=
  [Field.id, Field.executionId, Field.flowId, Field.nodeId, Field.accountId, Field.senderId,
   Field.executeAt, Field.status, Field.createdAt, Field.processedAt, Field.error]

def read : ValueReader Ticket := object title names fun doc =>
  Ticket.mk <$> required Field.id asText doc
    <*> required Field.executionId asText doc
    <*> required Field.flowId asText doc
    <*> required Field.nodeId asText doc
    <*> required Field.accountId asText doc
    <*> required Field.senderId asText doc
    <*> required Field.executeAt asTime doc
    <*> withDefault Field.status .pending readStatus doc
    <*> maybe Field.createdAt asTime doc
    <*> maybe Field.processedAt asTime doc
    <*> maybe Field.error asText doc

def fields (ticket : Ticket) : List (FieldName × Json) :=
  [(Field.id, .text ticket.id),
   (Field.executionId, .text ticket.executionId),
   (Field.flowId, .text ticket.flowId),
   (Field.nodeId, .text ticket.nodeId),
   (Field.accountId, .text ticket.accountId),
   (Field.senderId, .text ticket.senderId),
   (Field.executeAt, .text ticket.executeAt.text),
   (Field.status, .text ticket.status.text),
   (Field.createdAt, ofTime? ticket.createdAt),
   (Field.processedAt, ofTime? ticket.processedAt),
   (Field.error, .ofText? ticket.error)]

def write (naming : Naming) (ticket : Ticket) : Json :=
  Document.write naming (fields ticket) ticket.extras

/-- The row under which the ticket is stored. -/
def row (ticket : Ticket) : Row := Document.members .columns (fields ticket) ticket.extras

instance : DocumentType Ticket where
  title := title
  read := read
  write := write
  loose ticket := ticket.extras.map (·.2)

end Ticket
end MessageFlow
