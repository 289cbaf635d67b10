import MessageFlow.Execution.Document
import MessageFlow.Flow.Trigger

/-!
Events that start flows. The members of an event are kept as they were handed in; they are read when
it is matched with flows and when an execution is made of it.
-/

namespace MessageFlow
open Document

/-- The event that brings a sender to a flow. One of no type starts the triggers of no type. -/
structure TriggerEvent where
  triggerType : Json
  senderId : Json
  senderUsername : Json := .null
  postId : Json := .null
  commentText : Json := .null
  storyId : Json := .null
  messageText : Json := .null
  deriving DecidableEq

namespace TriggerEvent

/-- The words of a text; of what is no text only an empty value has them, and has none. -/
def wordsOf (value : Json) : Except Json (List String) :=
  match value with
  | .text text => .ok (Text.words text)
  | value => if value.isTruthy then .error value else .ok []

/-- The keywords of the comment, or of the message when the comment has none. Where there should be
a text, another value is given back. -/
def keywords (event : TriggerEvent) : Except Json (List String) := do
  let words ← wordsOf event.commentText
  if words.isEmpty then wordsOf event.messageText else .ok words

/-- The trigger nodes of a flow that the event starts. A type that is no text names none. -/
def triggers (event : TriggerEvent) (keywords : List String) (flow : Flow) : List Node :=
  match (nullable asText event.triggerType).toOption with
  | some triggerType =>
    flow.matchingTriggers triggerType keywords (nullable asText event.postId).toOption.join
  | none => []

/-- The context with which an execution starts. -/
def context (event : TriggerEvent) : Validated Context :=
  Context.read (.record
    [(Field.triggerType.column, event.triggerType), (Field.triggerPostId.column, event.postId),
     (Field.triggerCommentText.column, event.commentText),
     (Field.triggerStoryId.column, event.storyId)])

/-- The sender: id and name. -/
def sender (event : TriggerEvent) : Validated (String × Option String) :=
  Prod.mk <$> (asText event.senderId).under (.key Field.senderId.column)
    <*> (nullable asText event.senderUsername).under (.key Field.senderUsername.column)

end TriggerEvent
end MessageFlow
