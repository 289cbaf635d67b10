import MessageFlow.Flow.Validation
import MessageFlow.Message.Assistant
import MessageFlow.Message.Gateway
import MessageFlow.Message.Template
import MessageFlow.Store.Executions

/-!
Message nodes: a fixed text with variables, or one written by the assistant, sent as plain text,
with choices, or after an image.
-/

namespace MessageFlow

/-- What the assistant is told about the event. -/
def Execution.summary (execution : Execution) : String :=
  let username := firstText defaultDisplayName [execution.senderUsername]
  match execution.context.triggerCommentText.filter (!·.isEmpty) with
  | some comment => "User @" ++ username ++ " said: \"" ++ comment ++ "\""
  | none => "User @" ++ username ++ " triggered this flow."

namespace Run

def assistantMaxTokens : Int := 200

/-- The node's own instructions before those of the persona. -/
def assistantPrompt (account : Account) (data : NodeData) : String :=
  match data.aiPrompt.filter (!·.isEmpty) with
  | some prompt => prompt ++ "\n\n" ++ account.systemPrompt
  | none => account.systemPrompt

/-- The choices of a message; one without a payload of its own is named by node and position. -/
def replyOptions (node : Node) : List ReplyOption :=
  let data := node.data
  match data.messageKind? with
  | some .quickReplies =>
    ((data.quickReplies.getD []).zipIdx).map fun (title, position) =>
      ⟨title, "qr_" ++ node.id ++ "_" ++ toString position⟩
  | some .buttons =>
    ((data.buttons.getD []).zipIdx).map fun (button, position) =>
      ⟨button.label, firstText ("btn_" ++ node.id ++ "_" ++ toString position) [button.payload]⟩
  | _ => []

def messageText (deployment : Deployment) (account : Account) (node : Node) : Run String := do
  let execution ← get
  if node.data.useAI.getD false then
    Run.lift (Assistant.reply deployment (assistantPrompt account node.data)
      (account.sampleTurns ++ [⟨"user", .text execution.summary⟩]) assistantMaxTokens)
  else pure (execution.fill (node.data.text.getD ""))

/-- Sends the message of a node. Whether it is delivered makes no difference. -/
def sendMessage (deployment : Deployment) (account : Account) (node : Node) : Run Unit := do
  let text ← messageText deployment account node
  let recipient := (← get).senderId
  let image := if node.data.messageKind? == some .image then
    node.data.imageUrl.filter (!·.isEmpty) else none
  match image with
  | some url =>
    let _ ← Run.lift (Gateway.sendImage deployment account recipient url)
    if !text.isEmpty then
      let _ ← Run.lift (Gateway.sendText deployment account recipient text)
  | none =>
    if !text.isEmpty then
      let options := replyOptions node
      if options.isEmpty then
        let _ ← Run.lift (Gateway.sendText deployment account recipient text)
      else
        let _ ← Run.lift (Gateway.sendChoices deployment account recipient text options)

end Run
end MessageFlow
