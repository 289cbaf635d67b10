import MessageFlow.Json.Basic

/-!
What leaves the program: direct messages, notifications to a webhook, and requests for a completion.
-/

namespace MessageFlow

/-- A choice offered under a message. -/
structure ReplyOption where
  title : String
  payload : String
  deriving DecidableEq, Repr

inductive MessageContent where
  | text (text : String)
  | choices (text : String) (options : List ReplyOption)
  | image (url : String)
  deriving DecidableEq, Repr

def ReplyOption.body (option : ReplyOption) : Json :=
  .record [("content_type", .text "text"), ("title", .text option.title),
    ("payload", .text option.payload)]

def MessageContent.body : MessageContent → Json
  | .text message => .record [("text", .text message)]
  | .choices message options =>
    .record [("text", .text message), ("quick_replies", .list (options.map ReplyOption.body))]
  | .image url =>
    .record [("attachment", .record [("type", .text "image"),
      ("payload", .record [("url", .text url)])])]

/-- A direct message on its way to the messaging service. -/
structure MessagePost where
  url : String
  authorization : String
  recipient : String
  content : MessageContent
  deriving DecidableEq, Repr

/-- The authorization by an access token. -/
def MessagePost.authorizationOf (token : String) : String := "Bearer " ++ token

def MessagePost.body (post : MessagePost) : Json :=
  .record [("recipient", .record [("id", .text post.recipient)]), ("message", post.content.body)]

structure WebhookPost where
  url : String
  body : Json
  deriving DecidableEq

/-- How a post was answered. -/
inductive PostOutcome where
  | status (code : Int)
  | unreachable
  | crashed
  deriving DecidableEq, Repr

end MessageFlow
