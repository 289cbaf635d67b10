import MessageFlow.Deployment
import MessageFlow.Execution.Document
import MessageFlow.Message.Delivery
import MessageFlow.Time.Text

/-!
Notifications of the account owner. A notification that cannot be stored or delivered does not fail
the flow.
-/

namespace MessageFlow

inductive NotificationType where
  | flowNotify
  | newLead
  deriving DecidableEq, Repr

namespace NotificationType

def text : NotificationType → String
  | .flowNotify => "flow_notify"
  | .newLead => "new_lead"

def all : List NotificationType := [.flowNotify, .newLead]

def ofText? (s : String) : Option NotificationType := all.find? (·.text == s)

end NotificationType

structure Notification where
  type : NotificationType
  accountId : String
  executionId : String
  flowId : String
  senderId : String
  senderUsername : Option String
  recipientEmail : Option String
  context : Context
  createdAt : Timestamp
  delivered : Bool := false
  deriving DecidableEq

namespace Notification

def row (notification : Notification) : Row :=
  [("type", .text notification.type.text),
   ("account_id", .text notification.accountId),
   ("execution_id", .text notification.executionId),
   ("flow_id", .text notification.flowId),
   ("sender_id", .text notification.senderId),
   ("sender_username", .ofText? notification.senderUsername),
   ("recipient_email", .ofText? notification.recipientEmail),
   ("data", notification.context.write .columns),
   ("created_at", .text notification.createdAt.columnText)]

def acceptedCodes : List Int := [200, 201, 202, 204]

/-- Posts the notification to the webhook and tells whether it was accepted. -/
def announce (deployment : Deployment) (notification : Notification) : Operation Bool := do
  let address ← Delivery.address deployment.webhookUrl
  let body ← Delivery.body (.record notification.row)
  let outcome ← Operation.announce ⟨address.text, body⟩
  Delivery.isAccepted address acceptedCodes outcome

/-- Tells the recipient, or the account owner, about an execution. -/
def send (deployment : Deployment) (execution : Execution) (recipient : Option String)
    (type : NotificationType) : Operation Notification := do
  Operation.ensureWritable execution.context
  let notification : Notification := {
    type
    accountId := execution.accountId
    executionId := execution.id
    flowId := execution.flowId
    senderId := execution.senderId
    senderUsername := execution.senderUsername
    recipientEmail := recipient
    context := execution.context
    createdAt := ← Operation.now }
  if deployment.keepsNotifications then
    let _ ← Operation.attempt (Operation.query (.insert .notifications notification.row))
  if deployment.webhookUrl.isEmpty then pure notification
  else
    let delivered ← announce deployment notification
    pure { notification with delivered }

end Notification
end MessageFlow
