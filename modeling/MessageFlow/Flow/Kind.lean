/-!
The words by which flow documents name kinds of nodes, triggers, messages, conditions, delay units
and actions. A document may hold other words; they name nothing.
-/

namespace MessageFlow

inductive NodeKind where
  | trigger
  | message
  | condition
  | delay
  | action
  deriving DecidableEq, Repr

namespace NodeKind

def text : NodeKind → String
  | .trigger => "trigger"
  | .message => "message"
  | .condition => "condition"
  | .delay => "delay"
  | .action => "action"

def all : List NodeKind := [.trigger, .message, .condition, .delay, .action]

def ofText? (s : String) : Option NodeKind := all.find? (·.text == s)

@[simp] theorem ofText?_text (kind : NodeKind) : ofText? kind.text = some kind := by
  cases kind <;> decide

end NodeKind

/-- The events that can start a flow. -/
inductive TriggerKind where
  | comment
  | keyword
  | storyReply
  | storyMention
  | newFollower
  deriving DecidableEq, Repr

namespace TriggerKind

def text : TriggerKind → String
  | .comment => "comment"
  | .keyword => "keyword"
  | .storyReply => "story_reply"
  | .storyMention => "story_mention"
  | .newFollower => "new_follower"

def all : List TriggerKind := [.comment, .keyword, .storyReply, .storyMention, .newFollower]

def ofText? (s : String) : Option TriggerKind := all.find? (·.text == s)

@[simp] theorem ofText?_text (kind : TriggerKind) : ofText? kind.text = some kind := by
  cases kind <;> decide

/-- Whether triggers of this kind are selected by keywords. -/
def needsKeywords (kind : TriggerKind) : Bool := kind == .comment || kind == .keyword

end TriggerKind

/-- The ways to deliver a message. -/
inductive MessageKind where
  | plain
  | quickReplies
  | buttons
  | image
  deriving DecidableEq, Repr

namespace MessageKind

def text : MessageKind → String
  | .plain => "text"
  | .quickReplies => "quick_replies"
  | .buttons => "buttons"
  | .image => "image"

def all : List MessageKind := [.plain, .quickReplies, .buttons, .image]

def ofText? (s : String) : Option MessageKind := all.find? (·.text == s)

end MessageKind

inductive ConditionKind where
  | keywordMatch
  | hasEmail
  | hasPhone
  | customField
  | userReplied
  deriving DecidableEq, Repr

namespace ConditionKind

def text : ConditionKind → String
  | .keywordMatch => "keyword_match"
  | .hasEmail => "has_email"
  | .hasPhone => "has_phone"
  | .customField => "custom_field"
  | .userReplied => "user_replied"

def all : List ConditionKind := [.keywordMatch, .hasEmail, .hasPhone, .customField, .userReplied]

def ofText? (s : String) : Option ConditionKind := all.find? (·.text == s)

end ConditionKind

inductive DelayUnit where
  | minutes
  | hours
  | days
  deriving DecidableEq, Repr

namespace DelayUnit

def text : DelayUnit → String
  | .minutes => "minutes"
  | .hours => "hours"
  | .days => "days"

def all : List DelayUnit := [.minutes, .hours, .days]

def ofText? (s : String) : Option DelayUnit := all.find? (·.text == s)

def milliseconds : DelayUnit → Nat
  | .minutes => 60000
  | .hours => 60 * 60000
  | .days => 24 * 60 * 60000

end DelayUnit

inductive ActionKind where
  | collectEmail
  | collectPhone
  | addTag
  | removeTag
  | subscribe
  | unsubscribe
  | createLead
  | notify
  deriving DecidableEq, Repr

namespace ActionKind

def text : ActionKind → String
  | .collectEmail => "collect_email"
  | .collectPhone => "collect_phone"
  | .addTag => "add_tag"
  | .removeTag => "remove_tag"
  | .subscribe => "subscribe"
  | .unsubscribe => "unsubscribe"
  | .createLead => "create_lead"
  | .notify => "notify"

def all : List ActionKind :=
  [.collectEmail, .collectPhone, .addTag, .removeTag, .subscribe, .unsubscribe, .createLead,
   .notify]

def ofText? (s : String) : Option ActionKind := all.find? (·.text == s)

/-- Whether the action asks the sender for something. -/
def asks (kind : ActionKind) : Bool := kind == .collectEmail || kind == .collectPhone

end ActionKind
end MessageFlow
