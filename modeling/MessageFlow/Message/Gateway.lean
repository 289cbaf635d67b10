import MessageFlow.Deployment
import MessageFlow.Message.Delivery
import MessageFlow.Message.Length

/-!
Sending direct messages. A message that was not delivered is a normal outcome; a failure is only one
that cannot be posted at all, and a crash of the transport.
-/

namespace MessageFlow

/-- The address to which messages of the account are posted. -/
def Account.messagesUrl (account : Account) (base : String) : String :=
  let sender := match account.instagramAccountId.filter (!·.isEmpty) with
    | some id => id
    | none => (account.pageId.filter (!·.isEmpty)).getD "me"
  base ++ "/" ++ sender ++ "/messages"

namespace Gateway

/-- Posts a message and tells whether it was accepted; an account without a token posts nothing. -/
def send (deployment : Deployment) (account : Account) (recipient : String)
    (content : MessageContent) : Operation Bool :=
  match account.accessToken.filter (!·.isEmpty) with
  | none => pure false
  | some token => do
    let address ← Delivery.address (account.messagesUrl deployment.graphUrl)
    let authorization ← Delivery.header (MessagePost.authorizationOf token)
    let outcome ← Operation.post ⟨address.text, authorization, recipient, content⟩
    Delivery.isAccepted address [200] outcome

def sendText (deployment : Deployment) (account : Account) (recipient text : String) :
    Operation Bool :=
  send deployment account recipient (.text (truncateMessage deployment.maxMessageLength text))

def sendChoices (deployment : Deployment) (account : Account) (recipient text : String)
    (options : List ReplyOption) : Operation Bool :=
  send deployment account recipient (.choices (truncateMessage deployment.maxMessageLength text)
    (options.map fun option => { option with title := truncateTitle option.title }))

def sendImage (deployment : Deployment) (account : Account) (recipient url : String) :
    Operation Bool :=
  send deployment account recipient (.image url)

end Gateway
end MessageFlow
