import MessageFlow.Lead.Upsert
import MessageFlow.Message.Gateway
import MessageFlow.Message.Notification
import MessageFlow.Message.Template

/-!
Action nodes: asking for contact data, tags, subscription, leads and notifications.
-/

namespace MessageFlow

/-- Adds a tag that is not there yet. -/
def Context.addTag (context : Context) (tag : Option String) : Context :=
  match tag with
  | some tag =>
    if tag.isEmpty || context.tags.contains tag then context
    else { context with tags := context.tags ++ [tag] }
  | none => context

def Context.removeTag (context : Context) (tag : Option String) : Context :=
  match tag with
  | some tag => { context with tags := context.tags.filter (· != tag) }
  | none => context

/-- What the run knows about its sender. -/
def Execution.report (execution : Execution) : LeadReport where
  userId := execution.userId
  accountId := execution.accountId
  instagramUserId := execution.senderId
  username := execution.senderUsername
  email := execution.context.email
  phone := execution.context.phone
  name := execution.context.name
  source := "flow"
  flowId := execution.flowId
  tags := some execution.context.tags

namespace Run

def awaitingEmail : String := "awaiting_email"
def awaitingPhone : String := "awaiting_phone"
def subscribed : String := "subscribed"

def defaultEmailRequest : String :=
  "I'd love to send you more info! What's your email address?"

def defaultPhoneRequest : String := "What's the best number to reach you at?"

def modifyContext (change : Context → Context) : Run Unit :=
  modify fun execution => { execution with context := change execution.context }

/-- Sends a prompt; whether it is delivered makes no difference. -/
def sendPrompt (deployment : Deployment) (account : Account) (text : String) : Run Unit := do
  let execution ← get
  let _ ← Run.lift (Gateway.sendText deployment account execution.senderId (execution.fill text))

def performAction (deployment : Deployment) (account : Account) (data : NodeData) : Run Unit := do
  match data.actionKind? with
  | some .collectEmail =>
    sendPrompt deployment account (firstText defaultEmailRequest [data.customMessage])
    modifyContext (·.setFlag awaitingEmail true)
  | some .collectPhone =>
    sendPrompt deployment account (firstText defaultPhoneRequest [data.customMessage])
    modifyContext (·.setFlag awaitingPhone true)
  | some .addTag => modifyContext (·.addTag data.tag)
  | some .removeTag => modifyContext (·.removeTag data.tag)
  | some .subscribe => modifyContext (·.setFlag subscribed true)
  | some .unsubscribe => modifyContext (·.setFlag subscribed false)
  | some .createLead =>
    let _ ← Run.lift (upsertLead (← get).report)
  | some .notify =>
    let _ ← Run.lift (Notification.send deployment (← get) data.notifyEmail .flowNotify)
  | none => pure ()

/-- Whether the node waits for the sender's answer. -/
def awaitsReply (data : NodeData) : Bool :=
  data.waitForReply.getD false && data.actionKind?.any ActionKind.asks

end Run
end MessageFlow
