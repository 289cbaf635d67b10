import Mathlib.Data.List.Forall2
import MessageFlow.Message.Length
import MessageFlow.Message.Post
import MessageFlow.Proofs.Delivery.Posting
import MessageFlow.Proofs.Posts.Speech
import MessageFlow.Proofs.Text.Classes

/-!
What a node posts: the messages that it has for its sender, in their order, up to the first one that
cannot be posted. Each loses the end of a text that is too long, and the ends of the titles of its
choices.
-/

namespace MessageFlow

/-- The sent text keeps the limit. It is the whole text if that fits, and else a beginning of it
with three points. -/
structure KeepsLimit (limit : Int) (whole sent : String) : Prop where
  fits : (sent.length : Int) ≤ limit
  same : (whole.length : Int) ≤ limit → sent = whole
  begins : limit < whole.length →
    ∃ start, start <+: whole.toList ∧ sent = String.ofList (start ++ ['.', '.', '.'])

section truncate

variable {limit : Int} {whole : String}

theorem truncateMessage_of_lt (long : limit < whole.length) : truncateMessage limit whole =
    String.ofList (clip (limit - 3) whole.toList ++ ['.', '.', '.']) :=
  if_neg (Int.not_le.mpr long)

theorem clip_prefix {α : Type} (count : Int) (items : List α) : clip count items <+: items := by
  unfold clip
  split
  · exact List.take_prefix _ _
  · exact List.take_prefix _ _

theorem length_truncateMessage (long : limit < whole.length) :
    (truncateMessage limit whole).length = (clip (limit - 3) whole.toList).length + 3 := by
  rw [truncateMessage_of_lt long, String.length_ofList, List.length_append]
  rfl

/-- From three on a limit is kept by all texts, and below by those that need no cut. -/
theorem keepsLimit_truncateMessage :
    KeepsLimit limit whole (truncateMessage limit whole) ↔ 3 ≤ limit ∨ whole.length ≤ limit := by
  by_cases short : (whole.length : Int) ≤ limit
  · rw [truncateMessage_of_le short]
    exact ⟨fun _ => .inr short, fun _ => ⟨short, fun _ => rfl, fun long => absurd short (by omega)⟩⟩
  · have long : limit < whole.length := Int.not_le.mp short
    constructor
    · intro keeps
      have fits := keeps.fits
      rw [length_truncateMessage long] at fits
      exact .inl (by omega)
    · intro roomy
      have room : 3 ≤ limit := roomy.resolve_right short
      have kept : (clip (limit - 3) whole.toList).length ≤ (limit - 3).toNat := by
        rw [clip, if_pos (by omega)]
        exact List.length_take_le _ _
      refine ⟨?_, fun fits => absurd fits short, fun _ => ?_⟩
      · rw [length_truncateMessage long]
        omega
      · exact ⟨_, clip_prefix _ _, truncateMessage_of_lt long⟩

theorem truncateMessage_ne_empty (filled : whole ≠ "") : truncateMessage limit whole ≠ "" := by
  by_cases short : (whole.length : Int) ≤ limit
  · rwa [truncateMessage_of_le short]
  · intro none
    have empty := length_truncateMessage (Int.not_le.mp short)
    rw [none] at empty
    simp at empty

end truncate

/-- The sent choices are the whole ones in their order, with the same payloads and the first
characters of the titles. -/
def KeepsTitles (whole sent : List ReplyOption) : Prop :=
  List.Forall₂ (fun option sentOption => sentOption.payload = option.payload ∧
    sentOption.title.toList <+: option.title.toList ∧
    sentOption.title.length = min option.title.length replyTitleLimit) whole sent

theorem keepsTitles_truncate (options : List ReplyOption) : KeepsTitles options
    (options.map fun option => { option with title := truncateTitle option.title }) := by
  rw [KeepsTitles, List.forall₂_map_right_iff, List.forall₂_same]
  intro option _
  refine ⟨rfl, ?_, ?_⟩
  · rw [truncateTitle, String.toList_ofList]
    exact List.take_prefix _ _
  · rw [truncateTitle, String.length_ofList, List.length_take, Nat.min_comm]
    rfl

namespace MessageContent

/-- The message as it is sent. -/
def cut (limit : Int) : MessageContent → MessageContent
  | .text words => .text (truncateMessage limit words)
  | .choices words options => .choices (truncateMessage limit words)
      (options.map fun option => { option with title := truncateTitle option.title })
  | .image url => .image url

def text? : MessageContent → Option String
  | .text words => some words
  | .choices words _ => some words
  | .image _ => none

def options : MessageContent → List ReplyOption
  | .choices _ options => options
  | .text _ => []
  | .image _ => []

/-- The message has a text that is not empty, or it is an image. -/
def Speaks (content : MessageContent) : Prop := ∀ words, content.text? = some words → words ≠ ""

/-- The text of the sent message keeps the limit. An image has no text. -/
def KeepsText (limit : Int) (whole sent : MessageContent) : Prop :=
  Option.Rel (KeepsLimit limit) whole.text? sent.text?

variable {limit : Int}

theorem keepsText_cut {whole : MessageContent} : KeepsText limit whole (whole.cut limit) ↔
    3 ≤ limit ∨ ∀ words, whole.text? = some words → (words.length : Int) ≤ limit := by
  cases whole with
  | text words | choices words options =>
    rw [KeepsText, text?, cut, text?, Option.rel_some_some, keepsLimit_truncateMessage]
    refine or_congr_right ⟨fun fits other same => ?_, fun fits => fits words rfl⟩
    rwa [← Option.some.inj same]
  | image url => exact ⟨fun _ => .inr nofun, fun _ => .none⟩

theorem keepsTitles_cut (whole : MessageContent) :
    KeepsTitles whole.options (whole.cut limit).options := by
  cases whole with
  | choices words options => exact keepsTitles_truncate options
  | text words | image url => exact .nil

theorem speaks_cut {whole : MessageContent} (speaks : whole.Speaks) : (whole.cut limit).Speaks := by
  cases whole with
  | image url => exact nofun
  | text words | choices words options =>
    intro sent isSent
    rw [← Option.some.inj isSent]
    exact truncateMessage_ne_empty (speaks words rfl)

end MessageContent

/-!
The messages that a node has for its sender, and what becomes of them when it is executed.
-/

open Operation

variable {deployment : Deployment} {account : Account}

/-- What is posted for the account when a message is sent to a recipient. It is nothing if the
account has no token with which it can post. -/
def Deployment.letters (deployment : Deployment) (account : Account) (recipient : String)
    (content : MessageContent) : List MessagePost :=
  match account.token?, Delivery.target (account.messagesUrl deployment.graphUrl) with
  | some token, .ok address =>
    if (MessagePost.authorizationOf token).toList.all Text.isAscii then
      [⟨address.text, MessagePost.authorizationOf token, recipient, content⟩]
    else []
  | _, _ => []

theorem Deployment.letters_cases (deployment : Deployment) (account : Account) :
    (∃ token address, account.token? = some token ∧ IsHeader token ∧
        Delivery.target (account.messagesUrl deployment.graphUrl) = .ok address ∧
        ∀ recipient content, deployment.letters account recipient content =
          [⟨address.text, MessagePost.authorizationOf token, recipient, content⟩]) ∨
      (∀ token, account.token? = some token → ¬ deployment.CanPost account token) ∧
        ∀ recipient content, deployment.letters account recipient content = [] := by
  unfold letters
  split
  · next token address given targets =>
    split
    · next header => exact .inl ⟨token, address, given, header, targets, fun _ _ => rfl⟩
    · next foreign =>
      refine .inr ⟨fun other isToken can => ?_, fun _ _ => rfl⟩
      cases given.symm.trans isToken
      exact foreign can.1
  · next others =>
    refine .inr ⟨fun token given can => ?_, fun _ _ => rfl⟩
    obtain ⟨-, address, targets⟩ := can
    exact others token address given targets

theorem Gateway.posts_send (told : Outside) (asked : Nat) (recipient : String)
    (content : MessageContent) :
    ((send deployment account recipient content).tell told asked).posts =
      deployment.letters account recipient content := by
  rcases deployment.letters_cases account with
    ⟨token, address, given, header, targets, letters⟩ | ⟨cannot, letters⟩
  · rw [letters, send_of_target given header targets]
    have plain (outcome : PostOutcome) := Delivery.plain_isAccepted address [200] outcome
    exact congrArg (List.cons _) (posts_of_silent (suits_of_plain (plain _)))
  · rw [letters]
    cases given : account.token? with
    | none =>
      rw [send_of_no_token given]
      rfl
    | some token =>
      obtain ⟨failure, -, throws⟩ := send_of_not_canPost given (cannot token given)
      rw [throws]
      rfl

/-- The image of a message node, sent before its text. -/
def Node.image? (node : Node) : Option String :=
  if node.data.messageKind? == some .image then node.data.imageUrl.filter (!·.isEmpty) else none

/-- The messages of a message node with that text. -/
def Node.messages (node : Node) (text : String) : List MessageContent :=
  match node.image? with
  | some url => .image url :: if text.isEmpty then [] else [.text text]
  | none =>
    if text.isEmpty then []
    else if (Run.replyOptions node).isEmpty then [.text text]
    else [.choices text (Run.replyOptions node)]

namespace Run

/-- Sends messages one after the other. -/
def sendAll (deployment : Deployment) (account : Account) (recipient : String) :
    List MessageContent → Run Unit
  | [] => pure ()
  | content :: rest => do
    let _ ← Run.lift (Gateway.send deployment account recipient
      (content.cut deployment.maxMessageLength))
    sendAll deployment account recipient rest

theorem sendMessage_eq (deployment : Deployment) (account : Account) (node : Node) :
    sendMessage deployment account node = (do
      let text ← messageText deployment account node
      let e ← get
      sendAll deployment account e.senderId (node.messages text)) := by
  unfold sendMessage
  refine bind_congr fun text => bind_congr fun e => ?_
  unfold Node.messages Node.image?
  generalize (if node.data.messageKind? == some .image then
    node.data.imageUrl.filter (!·.isEmpty) else none) = image?
  cases image? with
  | some url => cases text.isEmpty <;> rfl
  | none =>
    cases text.isEmpty with
    | true => rfl
    | false =>
      simp only [Bool.not_false, if_true, Bool.false_eq_true, if_false]
      split <;> rfl

/-- Messages are posted in order, up to the first one that fails. -/
theorem posts_sendAll (told : Outside) (asked : Nat) (recipient : String)
    (contents : List MessageContent) (e : Execution) :
    ∃ count, ((sendAll deployment account recipient contents).tell told e asked).posts =
        (contents.take count).flatMap (fun content =>
          deployment.letters account recipient (content.cut deployment.maxMessageLength)) ∧
      (contents ≠ [] → 0 < count) := by
  induction contents generalizing asked with
  | nil => exact ⟨0, rfl, fun filled => absurd rfl filled⟩
  | cons content rest ih =>
    have sends := tell_lift told (Gateway.send deployment account recipient
      (content.cut deployment.maxMessageLength)) e asked
    rw [Gateway.posts_send] at sends
    cases outcome : ((Gateway.send deployment account recipient
        (content.cut deployment.maxMessageLength)).tell told asked).value with
    | error failure =>
      rw [outcome] at sends
      refine ⟨1, (congrArg Told.posts (tell_bind_of_error sends)).trans ?_, fun _ => Nat.one_pos⟩
      exact (List.append_nil _).symm
    | ok delivered =>
      rw [outcome] at sends
      obtain ⟨count, later, -⟩ := ih ((Gateway.send deployment account recipient
        (content.cut deployment.maxMessageLength)).tell told asked).asked
      refine ⟨count + 1, (congrArg Told.posts (tell_bind_of_ok sends)).trans ?_,
        fun _ => count.succ_pos⟩
      exact congrArg (_ ++ ·) later

/-- The completion that is asked for as the text of a node. -/
def completionFor (deployment : Deployment) (account : Account) (node : Node) (e : Execution) :
    Completion where
  model := deployment.assistantModel
  messages := ⟨"system", .text (assistantPrompt account node.data)⟩ ::
    List.map Assistant.knownRole (account.sampleTurns ++ [⟨"user", .text e.summary⟩])
  temperature := Assistant.temperature
  maxTokens := assistantMaxTokens
  timeout := deployment.assistantTimeout

/-- The reply of the assistant that is told that answer. -/
def replyOf (deployment : Deployment) (account : Account) (told : Outside) (asked : Nat)
    (node : Node) (e : Execution) : String :=
  if deployment.hasAssistant then
    Assistant.replyText (told asked (.complete (completionFor deployment account node e)))
  else Assistant.fallbackWithoutClient

theorem tell_reply (deployment : Deployment) (account : Account) (told : Outside) (asked : Nat)
    (node : Node) (e : Execution) :
    ∃ asked', (Assistant.reply deployment (assistantPrompt account node.data)
      (account.sampleTurns ++ [⟨"user", .text e.summary⟩]) assistantMaxTokens).tell told asked =
        ⟨.ok (replyOf deployment account told asked node e), asked', []⟩ := by
  unfold Assistant.reply replyOf
  split
  · exact ⟨asked + 1, rfl⟩
  · exact ⟨asked, rfl⟩

/-- The text of a message node before it is cut. -/
def wholeText (deployment : Deployment) (account : Account) (told : Outside) (asked : Nat)
    (node : Node) (e : Execution) : String :=
  if node.data.useAI.getD false then replyOf deployment account told asked node e
  else e.fill (node.data.text.getD "")

theorem tell_messageText (deployment : Deployment) (account : Account) (told : Outside)
    (asked : Nat) (node : Node) (e : Execution) :
    ∃ asked', (messageText deployment account node).tell told e asked =
      ⟨(.ok (wholeText deployment account told asked node e), e), asked', []⟩ := by
  rw [messageText, tell_bind_of_ok (tell_get told e asked)]
  unfold wholeText
  split
  · obtain ⟨asked', replies⟩ := tell_reply deployment account told asked node e
    rw [tell_lift, replies]
    exact ⟨asked', rfl⟩
  · exact ⟨asked, rfl⟩

end Run

/-- What an action asks its sender for. -/
def NodeData.prompt? (data : NodeData) : Option String :=
  match data.actionKind? with
  | some .collectEmail => some (firstText Run.defaultEmailRequest [data.customMessage])
  | some .collectPhone => some (firstText Run.defaultPhoneRequest [data.customMessage])
  | _ => none

/-- The messages of a node before they are cut. -/
def Node.contents (deployment : Deployment) (account : Account) (told : Outside) (asked : Nat)
    (node : Node) (e : Execution) : List MessageContent :=
  match node.kind? with
  | some .message => node.messages (Run.wholeText deployment account told asked node e)
  | some .action => (node.data.prompt?.map fun prompt => .text (e.fill prompt)).toList
  | _ => []

namespace Run

variable (deployment account) (told : Outside) (asked : Nat) (flow : Flow) (node : Node)
  (e : Execution)

/-- A message node sends its messages after it has found its text. -/
theorem posts_sendMessage :
    ∃ asked', ((sendMessage deployment account node).tell told e asked).posts =
      ((sendAll deployment account e.senderId
        (node.messages (wholeText deployment account told asked node e))).tell told e
          asked').posts := by
  obtain ⟨asked', writes⟩ := tell_messageText deployment account told asked node e
  rw [sendMessage_eq, tell_bind_of_ok writes, tell_bind_of_ok (tell_get told e asked')]
  exact ⟨asked', rfl⟩

/-- A prompt is one message. -/
theorem posts_sendPrompt (text : String) :
    ((sendPrompt deployment account text).tell told e asked).posts =
      ((sendAll deployment account e.senderId [.text (e.fill text)]).tell told e asked).posts := by
  have sends : sendPrompt deployment account text = (do
      let e ← get
      sendAll deployment account e.senderId [.text (e.fill text)]) := rfl
  rw [sends, tell_bind_of_ok (tell_get told e asked)]
  rfl

theorem posts_performAction (data : NodeData) :
    ((performAction deployment account data).tell told e asked).posts =
      ((sendAll deployment account e.senderId
        (data.prompt?.map fun prompt => .text (e.fill prompt)).toList).tell told e
          asked).posts := by
  unfold performAction NodeData.prompt?
  cases data.actionKind? with
  | none => rfl
  | some kind =>
    cases kind with
    | collectEmail | collectPhone =>
      exact (posts_bind_of_silent fun _ => suits_modifyContext _).trans
        (posts_sendPrompt deployment account told asked e _)
    | addTag | removeTag | subscribe | unsubscribe => rfl
    | createLead =>
      exact posts_of_silent (suits_get.bind fun e =>
        (suits_lift (suits_upsertLead e.report)).bind fun _ => suits_pure ())
    | notify =>
      exact posts_of_silent (suits_get.bind fun e => (suits_lift (Notification.send_speaking
        deployment e data.notifyEmail .flowNotify)).bind fun _ => suits_pure ())

theorem posts_handleNode :
    ∃ asked', ((handleNode deployment account flow node).tell told e asked).posts =
      ((sendAll deployment account e.senderId
        (node.contents deployment account told asked e)).tell told e asked').posts := by
  unfold handleNode Node.contents
  cases node.kind? with
  | none => exact ⟨asked, rfl⟩
  | some kind =>
    cases kind with
    | trigger | condition => exact ⟨asked, rfl⟩
    | message =>
      obtain ⟨asked', sends⟩ := posts_sendMessage deployment account told asked node e
      exact ⟨asked', (posts_bind_of_silent fun _ => suits_pure _).trans sends⟩
    | delay =>
      exact ⟨asked, (posts_bind_of_silent fun _ => suits_pure _).trans
        (posts_of_silent (suits_startDelay account flow node))⟩
    | action =>
      refine ⟨asked, (posts_bind_of_silent fun _ => ?_).trans
        (posts_performAction deployment account told asked e node.data)⟩
      split
      · exact (suits_modify _).bind fun _ => suits_pure _
      · exact suits_pure _

/-- A node posts its messages in order, up to the first one that fails, and nothing else. -/
theorem posts_executeNode :
    ∃ count, ((executeNode deployment account flow node).tell told e asked).posts =
        ((node.contents deployment account told asked e).take count).flatMap (fun content =>
          deployment.letters account e.senderId (content.cut deployment.maxMessageLength)) ∧
      (node.contents deployment account told asked e ≠ [] → 0 < count) := by
  have handles : ((executeNode deployment account flow node).tell told e asked).posts =
      ((handleNode deployment account flow node).tell told e asked).posts := by
    refine (posts_bind_of_silent fun outcome => ?_).trans (posts_attempt told _ e asked)
    cases outcome with
    | ok outcome => exact suits_pure outcome
    | error failure =>
      simp only
      split
      · exact suits_throw failure
      · exact (suits_fail _).bind fun _ => suits_pure _
  obtain ⟨asked', sends⟩ := posts_handleNode deployment account told asked flow node e
  rw [handles, sends]
  exact posts_sendAll told asked' e.senderId _ e

end Run

end MessageFlow
