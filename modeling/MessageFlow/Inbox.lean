import MessageFlow.Contact.Email
import MessageFlow.Contact.Phone
import MessageFlow.Run.Start

/-!
Messages of senders. A message goes to every open execution of its sender; when there is none it may
start flows instead.
-/

namespace MessageFlow

structure InboundMessage where
  text : String
  quickReplyPayload : Option String := none
  deriving DecidableEq, Repr

/-- Captures an awaited email address. -/
def Context.captureEmail (context : Context) (text : String) : Context :=
  if context.isSet Run.awaitingEmail then
    match Email.extract text with
    | some email => { context with email := some email }.setFlag Run.awaitingEmail false
    | none => context
  else context

/-- Captures an awaited phone number. -/
def Context.capturePhone (context : Context) (text : String) : Context :=
  if context.isSet Run.awaitingPhone then
    match Phone.extract text with
    | some phone => { context with phone := some phone }.setFlag Run.awaitingPhone false
    | none => context
  else context

/-- The context after a message: the message, awaited contact data and the selected option. -/
def Context.receive (context : Context) (message : InboundMessage) : Context :=
  let heard := { context with lastUserMessage := some message.text }
  let captured := (heard.captureEmail message.text).capturePhone message.text
  if hasText message.quickReplyPayload then
    { captured with selectedOptions := captured.selectedOptions ++ [message.text] }
  else captured

/-- The execution after a message; one that waited for input becomes active. -/
def Execution.receive (execution : Execution) (message : InboundMessage) : Execution :=
  { execution with
    context := execution.context.receive message
    status := if execution.isWaitingOnInput then .active else execution.status }

namespace Inbox
open Operation Store

def defaultAttempts : Nat := 3

/-- Applies a message to an execution and resumes it if it waited for input. After a conflict the
message is applied to a fresh copy. Gives the execution that was written last. -/
def handle (deployment : Deployment) (account : Account) (message : InboundMessage) :
    (attempts : Nat) → Run Execution
  | 0 => get
  | attempts + 1 => do
    let execution ← get
    if execution.isTerminal then pure execution
    else
      let resumes := execution.isWaitingOnInput
      set (execution.receive message)
      let now ← Run.lift now
      modify fun execution => { execution with updatedAt := some now }
      match ← Run.attempt saveExecution with
      | .ok () =>
        if resumes then Run.resume deployment account none
        get
      | .error failure =>
        if failure.isConflict then
          match ← Run.lift (getExecution execution.id) with
          | some reloaded =>
            Run.lift (Run.on reloaded (handle deployment account message attempts))
          | none => get
        else throw failure

/-- Hands a message to executions one after the other. -/
def handleAll (deployment : Deployment) (account : Account) (message : InboundMessage)
    (attempts : Nat) : List Execution → Operation (List Execution)
  | [] => pure []
  | execution :: executions => do
    let handled ← Run.on execution (handle deployment account message attempts)
    let others ← handleAll deployment account message attempts executions
    pure (handled :: others)

/-- Hands a message to the open executions of its sender. -/
def route (deployment : Deployment) (account : Account) (senderId : String)
    (message : InboundMessage) (attempts : Nat) : Operation (List Execution) := do
  let executions ← listOpenExecutions none (some account.id) (some senderId)
  handleAll deployment account message attempts executions

/-- What became of a message. -/
structure Dispatched where
  handled : List Execution
  started : List Execution

/-- Hands a message to the open executions of its sender, or to the keyword triggers when there are
none. -/
def dispatch (deployment : Deployment) (account : Account) (senderId : String)
    (senderUsername : Option String) (message : InboundMessage) (attempts : Nat) :
    Operation Dispatched := do
  let handled ← route deployment account senderId message attempts
  if handled.isEmpty then
    let started ← Run.trigger deployment account {
      triggerType := .text TriggerKind.keyword.text
      senderId := .text senderId
      senderUsername := .ofText? senderUsername
      messageText := .text message.text }
    pure ⟨[], started⟩
  else pure ⟨handled, []⟩

end Inbox
end MessageFlow
