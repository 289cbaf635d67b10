import MessageFlow.Proofs.Manner

/-!
Steady operations: whatever the outside answers, they ask the same inside and have the same outcome.
Operations that ask nothing outside are steady, and so are posts to an address with a host.
-/

namespace MessageFlow

section steady

variable {fit : Account → Prop} {α β : Type}

/-- Asking the same inside whatever the outside answers, and having the same outcome. -/
def Manner.steady (fit : Account → Prop) : Manner where
  Keeps p := p.Twins fit Eq p
  done _ := .done rfl
  bind := by
    intro α β p f first rest
    apply Program.Twins.bind first
    rintro a _ rfl
    exact rest a
  traversing twins := twins.traversing
  inside isInside := .inside isInside fun _ _ => .done rfl

namespace Operation

def Steady (fit : Account → Prop) (operation : Operation α) : Prop :=
  operation.run.Twins fit Eq operation.run

/-- Both succeed, or both fail in the same way. -/
inductive Agree : Except Failure α → Except Failure β → Prop
  | ok (a : α) (b : β) : Agree (.ok a) (.ok b)
  | error (failure : Failure) : Agree (.error failure) (.error failure)

/-- Steady but for the value of a success. -/
def Settled (fit : Account → Prop) (operation : Operation α) : Prop :=
  operation.run.Twins fit Agree operation.run

/-- Asks nothing inside, and does not fail. -/
def Quiet (operation : Operation α) : Prop := operation.run.Mute fun outcome => ∃ a, outcome = .ok a

theorem settled_of_steady {operation : Operation α} (steady : operation.Suits (.steady fit)) :
    operation.Settled fit := by
  apply Program.Twins.mono steady
  rintro (failure | a) _ rfl
  · exact .error failure
  · exact .ok a a

theorem settled_bind {operation : Operation α} {f : α → Operation β}
    (first : operation.Suits (.steady fit)) (rest : ∀ a, (f a).Settled fit) :
    (operation >>= f).Settled fit := by
  apply Program.Twins.bind first
  rintro (failure | a) _ rfl
  · exact .done (.error failure)
  · exact rest a

theorem settled_map {f : α → β} {operation : Operation α} (settled : operation.Settled fit) :
    (operation >>= fun a => pure (f a)).Settled fit := by
  apply Program.Twins.bind settled
  rintro _ _ (⟨a, b⟩ | failure)
  · exact .done (.ok (f a) (f b))
  · exact .done (.error failure)

theorem Quiet.settled {operation : Operation α} (quiet : operation.Quiet) :
    operation.Settled fit := by
  apply (quiet.twins quiet).mono
  rintro _ _ ⟨⟨a, rfl⟩, b, rfl⟩
  exact .ok a b

theorem quiet_pure (a : α) : (pure a : Operation α).Quiet := .done ⟨a, rfl⟩

end Operation

namespace Run

def Steady (fit : Account → Prop) (run : Run α) : Prop :=
  ∀ e, (run.outcome e).Twins fit Eq (run.outcome e)

/-- Asks nothing inside, does not fail, and does not touch the execution object. -/
def Quiet (run : Run α) : Prop :=
  ∀ e, (run.outcome e).Mute fun outcome => ∃ a, outcome = (.ok a, e)

/-- An operation whose value does not matter, and the rest of a run. -/
theorem steady_then {operation : Operation α} {next : Run β}
    (first : operation.Settled fit) (rest : next.Suits (.steady fit)) :
    (lift operation >>= fun _ => next).Suits (.steady fit) := by
  intro e
  change (Program.Twins fit Eq ((operation.run.bind _).bind _) ((operation.run.bind _).bind _))
  rw [Program.bind_bind]
  apply Program.Twins.bind first
  rintro _ _ (⟨a, b⟩ | failure)
  · exact rest e
  · exact .done rfl

theorem quiet_pure (a : α) : (pure a : Run α).Quiet := fun _ => .done ⟨a, rfl⟩

theorem quiet_get : (get : Run Execution).Quiet := fun e => .done ⟨e, rfl⟩

theorem quiet_lift {operation : Operation α} (quiet : operation.Quiet) :
    (lift operation).Quiet := by
  intro e
  apply Program.Mute.bind quiet
  rintro _ ⟨a, rfl⟩
  exact .done ⟨a, rfl⟩

theorem Quiet.bind {run : Run α} {f : α → Run β} (first : run.Quiet)
    (rest : ∀ a, (f a).Quiet) : (run >>= f).Quiet := by
  intro e
  apply Program.Mute.bind (first e)
  rintro _ ⟨a, rfl⟩
  exact rest a e

/-- A quiet run without a value. -/
theorem Quiet.steady {run : Run Unit} (quiet : run.Quiet) : run.Suits (.steady fit) := by
  intro e
  apply ((quiet e).twins (quiet e)).mono
  rintro _ _ ⟨⟨⟨⟩, rfl⟩, ⟨⟩, rfl⟩
  rfl

end Run

end steady

/-!
What is posted. Whether a message can be posted at all depends on the address and on the token of
its account, and on the answer only when the address names no host. A text of the assistant decides
by its blanks alone whether there is anything to post.
-/

open Operation

/-- The address to which a post to that text goes. -/
def Delivery.target (url : String) : Except AddressError Address := do
  (← Address.read url) |> Address.resolve {}

/-- The token with which an account posts. -/
def Account.token? (account : Account) : Option String := account.accessToken.filter (!·.isEmpty)

/-- The authorization can stand in a header. -/
def IsHeader (token : String) : Prop :=
  (MessagePost.authorizationOf token).toList.all Text.isAscii = true

/-- The authorization can stand in a header, and the address can be read. -/
def Deployment.CanPost (deployment : Deployment) (account : Account) (token : String) : Prop :=
  IsHeader token ∧
    ∃ address, Delivery.target (account.messagesUrl deployment.graphUrl) = .ok address

/-- No answer decides whether an operation for the account goes on. An account without a token posts
nothing; any other one posts to a host if it posts at all, and with an assistant it can post.
Notifications go to a host if they are posted at all. -/
structure Deployment.Reaches (deployment : Deployment) (account : Account) : Prop where
  toHost : ∀ token address, account.token? = some token → IsHeader token →
    Delivery.target (account.messagesUrl deployment.graphUrl) = .ok address →
    address.isAbsolute = true
  assisted : deployment.hasAssistant = true → ∀ token, account.token? = some token →
    deployment.CanPost account token
  webhook : deployment.webhookUrl.isEmpty = false → ∀ address,
    Delivery.target deployment.webhookUrl = .ok address → address.isAbsolute = true

variable {fit : Account → Prop} {deployment : Deployment} {account : Account}

namespace Delivery

theorem address_eq (url : String) : Delivery.address url = match target url with
    | .ok address => pure address
    | .error error => throw (.address error) := rfl

theorem address_of_ok {url : String} {address : Address} (targets : target url = .ok address) :
    Delivery.address url = pure address := by
  rw [address_eq, targets]

theorem address_of_error {url : String} {error : AddressError}
    (targets : target url = .error error) : Delivery.address url = throw (.address error) := by
  rw [address_eq, targets]

/-- A host answers, or nobody does. -/
theorem quiet_isAccepted {address : Address} (toHost : address.isAbsolute = true) (codes : List Int)
    {outcome : PostOutcome} (normal : outcome ≠ .crashed) :
    (isAccepted address codes outcome).Quiet := by
  cases outcome with
  | status code =>
    simp only [isAccepted, toHost, if_true]
    exact quiet_pure _
  | unreachable => exact quiet_pure false
  | crashed => exact absurd rfl normal

theorem isAccepted_of_relative {address : Address} (relative : address.isAbsolute = false)
    (codes : List Int) (code : Int) :
    isAccepted address codes (.status code) = throw (.unknownScheme address.text) := by
  rw [isAccepted, relative, if_neg Bool.false_ne_true]

end Delivery

namespace Gateway

theorem quiet_posted {address : Address} (toHost : address.isAbsolute = true) (post : MessagePost) :
    (Operation.post post >>= fun outcome => Delivery.isAccepted address [200] outcome).Quiet :=
  .ask rfl fun _ normal => Delivery.quiet_isAccepted toHost [200] normal

theorem send_eq (recipient : String) (content : MessageContent) :
    send deployment account recipient content = (match account.token? with
      | none => pure false
      | some token => do
        let address ← Delivery.address (account.messagesUrl deployment.graphUrl)
        let authorization ← Delivery.header (MessagePost.authorizationOf token)
        let outcome ← Operation.post ⟨address.text, authorization, recipient, content⟩
        Delivery.isAccepted address [200] outcome) :=
  rfl

theorem send_of_no_token (none : account.token? = none) (recipient : String)
    (content : MessageContent) : send deployment account recipient content = pure false := by
  rw [send_eq, none]

theorem send_of_target {token : String} {address : Address} (given : account.token? = some token)
    (header : IsHeader token)
    (targets : Delivery.target (account.messagesUrl deployment.graphUrl) = .ok address)
    (recipient : String) (content : MessageContent) :
    send deployment account recipient content =
      (Operation.post ⟨address.text, MessagePost.authorizationOf token, recipient, content⟩ >>=
        fun outcome => Delivery.isAccepted address [200] outcome) := by
  have stands : Delivery.header (MessagePost.authorizationOf token) = pure _ := if_pos header
  rw [send_eq, given]
  simp only [Delivery.address_of_ok targets, stands, pure_bind]

/-- What cannot be posted fails alike whatever it is. -/
theorem send_of_not_canPost {token : String} (given : account.token? = some token)
    (cannot : ¬ deployment.CanPost account token) : ∃ failure : Failure,
      failure.isConflict = false ∧
        ∀ recipient content, send deployment account recipient content = throw failure := by
  simp only [send_eq, given]
  cases targets : Delivery.target (account.messagesUrl deployment.graphUrl) with
  | error error =>
    refine ⟨.address error, rfl, fun recipient content => ?_⟩
    simp only [Delivery.address_of_error targets]
    rfl
  | ok address =>
    have foreign : Delivery.header (MessagePost.authorizationOf token) = throw _ :=
      if_neg fun header => cannot ⟨header, address, targets⟩
    refine ⟨.foreignHeader (MessagePost.authorizationOf token), rfl, fun recipient content => ?_⟩
    simp only [Delivery.address_of_ok targets, foreign, pure_bind]
    rfl

theorem settled_send (reaches : deployment.Reaches account) (recipient : String)
    (content : MessageContent) : (send deployment account recipient content).Settled fit := by
  cases given : account.token? with
  | none =>
    rw [send_of_no_token given]
    exact settled_of_steady (suits_pure false)
  | some token =>
    by_cases canPost : deployment.CanPost account token
    · obtain ⟨header, address, targets⟩ := canPost
      rw [send_of_target given header targets]
      exact (quiet_posted (reaches.toHost token address given header targets) _).settled
    · obtain ⟨failure, _, throws⟩ := send_of_not_canPost given canPost
      rw [throws]
      exact settled_of_steady (suits_throw failure)

/-- With an assistant a message is always posted, or never. -/
theorem quiet_send (reaches : deployment.Reaches account)
    (hasAssistant : deployment.hasAssistant = true) (recipient : String)
    (content : MessageContent) :
    (send deployment account recipient content).Quiet := by
  cases given : account.token? with
  | none =>
    rw [send_of_no_token given]
    exact quiet_pure false
  | some token =>
    obtain ⟨header, address, targets⟩ := reaches.assisted hasAssistant token given
    rw [send_of_target given header targets]
    exact quiet_posted (reaches.toHost token address given header targets) _

end Gateway

theorem Assistant.quiet_reply (deployment : Deployment) (systemPrompt : String) (turns : List Turn)
    (maxTokens : Int) : (reply deployment systemPrompt turns maxTokens).Quiet := by
  unfold reply
  split
  · exact .ask rfl fun outcome _ => quiet_pure (replyText outcome)
  · exact quiet_pure _

theorem Assistant.steady_reply (hasNone : deployment.hasAssistant = false) (systemPrompt : String)
    (turns : List Turn) (maxTokens : Int) :
    (reply deployment systemPrompt turns maxTokens).Suits (.steady fit) := by
  unfold reply
  rw [hasNone, if_neg Bool.false_ne_true]
  exact suits_pure _

namespace Notification

theorem announce_of_target {address : Address} {notification : Notification}
    (targets : Delivery.target deployment.webhookUrl = .ok address)
    (finite : Json.isFinite (.record notification.row) = true) :
    announce deployment notification =
      (Operation.announce ⟨address.text, .record notification.row⟩ >>= fun outcome =>
        Delivery.isAccepted address acceptedCodes outcome) := by
  have stands : Delivery.body (.record notification.row) = pure _ := if_pos finite
  unfold announce
  simp only [Delivery.address_of_ok targets, stands, pure_bind]

theorem settled_announce (reaches : deployment.Reaches account)
    (hasWebhook : deployment.webhookUrl.isEmpty = false) (notification : Notification) :
    (announce deployment notification).Settled fit := by
  cases targets : Delivery.target deployment.webhookUrl with
  | error error =>
    unfold announce
    rw [Delivery.address_of_error targets]
    exact settled_of_steady (suits_throw _)
  | ok address =>
    by_cases finite : Json.isFinite (.record notification.row) = true
    · have posted : (announce deployment notification).Quiet := by
        rw [announce_of_target targets finite]
        exact .ask rfl fun _ normal =>
          Delivery.quiet_isAccepted (reaches.webhook hasWebhook address targets) _ normal
      exact posted.settled
    · have noBody : Delivery.body (.record notification.row) = throw _ := if_neg finite
      unfold announce
      simp only [Delivery.address_of_ok targets, noBody, pure_bind]
      exact settled_of_steady (suits_throw _)

theorem settled_send (reaches : deployment.Reaches account) (execution : Execution)
    (recipient : Option String) (type : NotificationType) :
    (send deployment execution recipient type).Settled fit := by
  have told (notification : Notification) :
      (if deployment.webhookUrl.isEmpty then pure notification
        else do
          let delivered ← announce deployment notification
          pure { notification with delivered } : Operation Notification).Settled fit := by
    cases hasNone : deployment.webhookUrl.isEmpty with
    | true => exact settled_of_steady (suits_pure notification)
    | false => exact settled_map (settled_announce reaches hasNone notification)
  refine settled_bind (suits_of_plain (plain_ensureWritable _)) fun _ =>
    settled_bind suits_now fun now => ?_
  by_cases keeps : deployment.keepsNotifications = true
  · simp only [keeps, if_true]
    exact settled_bind (suits_query _).attempt fun _ => told _
  · simp only [keeps]
    exact told _

end Notification

end MessageFlow
