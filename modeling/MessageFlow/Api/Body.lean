import MessageFlow.Document.Field
import MessageFlow.Flow.Document
import MessageFlow.Flow.Event

/-!
The bodies that the interface accepts. Unknown members of events and messages are ignored.
-/

namespace MessageFlow
open Document

structure EventBody where
  accountId : String
  event : TriggerEvent

structure MessageBody where
  accountId : String
  senderId : String
  text : String
  senderUsername : Option String
  quickReplyPayload : Option String

namespace EventBody

def ofParts (accountId : String) (kind : TriggerKind) (senderId : String)
    (senderUsername postId commentText storyId messageText : Option String) : EventBody :=
  ⟨accountId, {
    triggerType := .text kind.text
    senderId := .text senderId
    senderUsername := .ofText? senderUsername
    postId := .ofText? postId
    commentText := .ofText? commentText
    storyId := .ofText? storyId
    messageText := .ofText? messageText }⟩

def readKind : ValueReader TriggerKind :=
  oneOf (TriggerKind.all.map TriggerKind.text) TriggerKind.ofText?

def read : ValueReader EventBody := closedObject "TriggerEventRequest" fun doc =>
  EventBody.ofParts <$> required (.plain "account_id") asText doc
    <*> required (.plain "trigger_type") readKind doc
    <*> required (.plain "sender_id") asText doc
    <*> maybe (.plain "sender_username") asText doc
    <*> maybe (.plain "post_id") asText doc
    <*> maybe (.plain "comment_text") asText doc
    <*> maybe (.plain "story_id") asText doc
    <*> maybe (.plain "message_text") asText doc

end EventBody

namespace MessageBody

def read : ValueReader MessageBody := closedObject "InboundMessageRequest" fun doc =>
  MessageBody.mk <$> required (.plain "account_id") asText doc
    <*> required (.plain "sender_id") asText doc
    <*> required (.plain "text") asText doc
    <*> maybe (.plain "sender_username") asText doc
    <*> maybe (.plain "quick_reply_payload") asText doc

end MessageBody

/-- Issues of a body are located in it, and say of a part that is no object that it has no
attributes. -/
def bodyIssue (issue : Issue) : Issue :=
  { issue with
    kind := match issue.kind with
      | .modelType _ => .attributesType
      | kind => kind
    path := .key "body" :: issue.path }

/-- Reads the body of a request; one that is absent or null is missing. -/
def readBody (read : ValueReader α) (body : Option Json) : Validated α :=
  match body with
  | none | some .null => .invalid [⟨.missing, [.key "body"], .null⟩]
  | some value => match read value with
    | .valid value => .valid value
    | .invalid issues => .invalid (issues.map bodyIssue)

end MessageFlow
