import MessageFlow.Proofs.Delivery.Indifference
import MessageFlow.Proofs.Posts.Node

/-!
What a message node says in the words of the assistant. A completion made of blanks is trimmed to
nothing after it was found not to be empty, so no fallback takes its place and nothing is said;
and an account that cannot post says nothing at all.
-/

namespace MessageFlow
open Operation

/-- A text of blanks alone, which is not the empty text. -/
def CompletionOutcome.IsBlank (outcome : CompletionOutcome) : Prop :=
  ∃ text, outcome = .text (some text) ∧ text ≠ "" ∧ ¬ Text.HasWord text

theorem Assistant.replyText_eq_empty {outcome : CompletionOutcome} :
    replyText outcome = "" ↔ outcome.IsBlank := by
  have fallback : fallbackWithoutText ≠ "" ∧ fallbackAfterError ≠ "" := by decide
  cases outcome with
  | failed =>
    refine ⟨fun none => absurd none fallback.2, ?_⟩
    rintro ⟨text, ⟨⟩, -⟩
  | noChoices =>
    refine ⟨fun none => absurd none fallback.1, ?_⟩
    rintro ⟨text, ⟨⟩, -⟩
  | text text? =>
    cases text? with
    | none =>
      refine ⟨fun none => absurd none fallback.1, ?_⟩
      rintro ⟨text, ⟨⟩, -⟩
    | some text =>
      by_cases empty : text = ""
      · subst empty
        refine ⟨fun none => absurd none fallback.1, ?_⟩
        rintro ⟨_, ⟨⟩, filled, -⟩
        exact absurd rfl filled
      · have trimmed : replyText (.text (some text)) = Text.trim text :=
          if_neg (by simpa [String.isEmpty_iff] using empty)
        rw [trimmed, Text.trim_eq_empty_iff]
        constructor
        · exact fun blank => ⟨text, rfl, empty, blank⟩
        · rintro ⟨_, ⟨⟩, -, blank⟩
          exact blank

variable {deployment : Deployment} {account : Account} {told : Outside} {asked : Nat} {node : Node}
  {e : Execution}

namespace Node

theorem messages_ne_nil {text : String} (filled : text ≠ "") : node.messages text ≠ [] := by
  have notEmpty : text.isEmpty = false := by
    simpa [← Bool.not_eq_true, String.isEmpty_iff] using filled
  unfold messages
  split
  · exact List.cons_ne_nil _ _
  · rw [notEmpty]
    simp only [Bool.false_eq_true, if_false]
    split <;> exact List.cons_ne_nil _ _

/-- A text is left out when it is empty. -/
theorem speaks_of_messages {text : String} {content : MessageContent}
    (present : content ∈ node.messages text) : content.Speaks := by
  have ofText (filled : ¬ text.isEmpty = true) : ∀ words, some text = some words → words ≠ "" := by
    rintro _ ⟨⟩ rfl
    exact filled rfl
  unfold messages at present
  split at present
  · split at present
    · rw [List.mem_singleton.mp present]
      exact nofun
    · next filled =>
      simp only [List.mem_cons, List.not_mem_nil, or_false] at present
      rcases present with rfl | rfl
      · exact nofun
      · exact ofText filled
  · split at present
    · cases present
    · next filled =>
      split at present
      · rw [List.mem_singleton.mp present]
        exact ofText filled
      · rw [List.mem_singleton.mp present]
        exact ofText filled

end Node

namespace Run

theorem replyOf_eq_empty : replyOf deployment account told asked node e = "" ↔
    deployment.hasAssistant = true ∧
      (told asked (.complete (completionFor deployment account node e))).IsBlank := by
  unfold replyOf
  split
  · next hasAssistant =>
    rw [Assistant.replyText_eq_empty]
    exact (and_iff_right hasAssistant).symm
  · next hasNone =>
    have fallback : Assistant.fallbackWithoutClient ≠ "" := by decide
    exact ⟨fun none => absurd none fallback, fun blank => absurd blank.1 hasNone⟩

/-- A message node that uses the assistant has a reply and says it, exactly if its account can post
and the completion is no text of blanks. -/
theorem assisted_node_speaks_iff (deployment : Deployment) (account : Account) (flow : Flow)
    (node : Node) (e : Execution) (told : Outside) (asked : Nat) (token : String)
    (given : account.token? = some token) (isMessage : node.kind? = some .message)
    (useAI : node.data.useAI = some true) :
    let reply := (Assistant.reply deployment (assistantPrompt account node.data)
      (account.sampleTurns ++ [⟨"user", .text e.summary⟩]) assistantMaxTokens).tell told asked
    let posts := ((executeNode deployment account flow node).tell told e asked).posts
    ((∃ text, reply.value = .ok text ∧ text ≠ "") ∧ posts ≠ [] ∧
        ∀ post ∈ posts, post.content.Speaks) ↔
      deployment.CanPost account token ∧ ¬ (deployment.hasAssistant = true ∧
        (told asked (.complete (completionFor deployment account node e))).IsBlank) := by
  intro reply posts
  obtain ⟨asked', replies⟩ := tell_reply deployment account told asked node e
  have isReply : reply.value = .ok (replyOf deployment account told asked node e) := by
    rw [show reply = _ from replies]
  have contents : node.contents deployment account told asked e =
      node.messages (replyOf deployment account told asked node e) := by
    rw [Node.contents, isMessage]
    simp only [wholeText, useAI, Option.getD_some, if_true]
  obtain ⟨count, said, sends⟩ := posts_executeNode deployment account told asked flow node e
  rw [contents] at said sends
  rw [← replyOf_eq_empty]
  rcases deployment.letters_cases account with
    ⟨other, address, isToken, header, targets, letters⟩ | ⟨cannot, letters⟩
  · obtain rfl : token = other := Option.some.inj (given.symm.trans isToken)
    simp only [letters, ← List.map_eq_flatMap] at said
    constructor
    · rintro ⟨⟨text, isText, filled⟩, -⟩
      rw [isReply] at isText
      cases isText
      exact ⟨⟨header, address, targets⟩, filled⟩
    · rintro ⟨-, filled⟩
      have some : node.messages (replyOf deployment account told asked node e) ≠ [] :=
        Node.messages_ne_nil filled
      refine ⟨⟨_, isReply, filled⟩, ?_, fun post present => ?_⟩
      · rw [show posts = _ from said, Ne, List.map_eq_nil_iff, List.take_eq_nil_iff]
        exact fun none => none.elim (sends some).ne' some
      · rw [show posts = _ from said] at present
        obtain ⟨content, isMessage, rfl⟩ := List.mem_map.mp present
        exact MessageContent.speaks_cut (Node.speaks_of_messages (List.mem_of_mem_take isMessage))
  · have silent : posts = [] := said.trans (List.flatMap_eq_nil_iff.mpr fun _ _ => letters _ _)
    constructor
    · exact fun speaks => absurd silent speaks.2.1
    · exact fun speaks => absurd speaks.1 (cannot token given)

end Run

namespace Example

/-- A picture with words of the assistant. -/
def pictured : NodeData where
  useAI := some true
  messageType := some "image"
  imageUrl := some "https://shop.example/new.png"

end Example

open Example in
/-- The assistant answers in a word, which is posted with the picture. -/
theorem pictured_node_speaks : shop.token? = some "token" ∧
    ((Run.executeNode assisted shop (Steering.flow (Steering.node .message pictured))
      (Steering.node .message pictured)).tell (answering "Hi" (.status 200))
        (Steering.arrived .message pictured) 0).posts ≠ [] := by
  have can := reaches_shop.assisted rfl "token" rfl
  have speaks := (Run.assisted_node_speaks_iff assisted shop
    (Steering.flow (Steering.node .message pictured)) (Steering.node .message pictured)
    (Steering.arrived .message pictured) (answering "Hi" (.status 200)) 0 "token" rfl rfl rfl).mpr
    ⟨can, ?_⟩
  · exact ⟨rfl, speaks.2.1⟩
  · rintro ⟨-, text, isText, -, blank⟩
    cases isText
    exact blank ⟨'H', by decide, by decide⟩

open Example in
/-- The assistant answers with a blank, and nothing is said. -/
theorem not_always_speaks : ¬ ∀ (deployment : Deployment) (account : Account) (flow : Flow)
    (node : Node) (e : Execution) (told : Outside) (asked : Nat) (token : String),
    account.token? = some token → node.kind? = some .message → node.data.useAI = some true →
    (∃ text, ((Assistant.reply deployment (Run.assistantPrompt account node.data)
      (account.sampleTurns ++ [⟨"user", .text e.summary⟩]) Run.assistantMaxTokens).tell told
        asked).value = .ok text ∧ text ≠ "") ∧
      ((Run.executeNode deployment account flow node).tell told e asked).posts ≠ [] ∧
      ∀ post ∈ ((Run.executeNode deployment account flow node).tell told e asked).posts,
        post.content.Speaks := by
  intro always
  obtain ⟨-, posted, -⟩ := always assisted shop
    (Steering.flow (Steering.node .message Steering.written))
    (Steering.node .message Steering.written) (Steering.arrived .message Steering.written)
    (answering " " (.status 200)) 0 "token" rfl rfl rfl
  apply posted
  decide +kernel

end MessageFlow
