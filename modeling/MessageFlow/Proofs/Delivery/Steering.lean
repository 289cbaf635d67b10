import MessageFlow.Proofs.Delivery.Operations
import MessageFlow.Proofs.Delivery.Twins
import MessageFlow.Proofs.Interleaving.Answers
import MessageFlow.Proofs.Interleaving.Schedule

/-!
Answers that steer. Where a deployment does not reach an account, two answers of the outside make a
difference: a flow of one node is completed with the one, and fails with the other.
-/

namespace MessageFlow

namespace Steering

/-- A store that does what it is told, and keeps the status that was written last. -/
def inside : Inside Json
  | .query (.update .executions _ changes), _ => (.ok [[]], Row.get changes "status")
  | request, s => (Move.reply { client := 0 } request, s)

def begin : Node := ⟨"begin", NodeKind.trigger.text, {}, none, []⟩

def node (kind : NodeKind) (data : NodeData) : Node := ⟨"node", kind.text, data, none, []⟩

/-- A flow of one node. -/
def flow (node : Node) : Flow where
  id := "flow"
  userId := none
  accountId := "account"
  name := "Flow"
  description := none
  nodes := [begin, node]
  edges := [⟨none, "begin", "node", none, []⟩]
  isActive := true
  triggerCount := 0
  lastTriggeredAt := none
  createdAt := none
  updatedAt := none
  extras := []

def event : TriggerEvent := { triggerType := .null, senderId := .text "sender" }

/-- The execution with which the flow starts. -/
def arrival : Execution where
  id := ""
  flowId := "flow"
  userId := none
  accountId := "account"
  senderId := "sender"
  senderUsername := none
  currentNodeId := "begin"
  createdAt := some default
  updatedAt := some default

/-- The execution when it has come to the node. -/
abbrev arrived (kind : NodeKind) (data : NodeData) : Execution := arrival.movedTo (node kind data)

variable {reply : (request : Request) → request.Answer} {deployment : Deployment}
  {account : Account} {kind : NodeKind} {data : NodeData} {s s' : Json}

theorem triggers_eq (acts : kind = .message ∨ kind = .action) :
    event.triggers [] (flow (node kind data)) = [begin] := by
  rcases acts with rfl | rfl
  · rfl
  · rfl

/-- An execution without extras is saved. -/
theorem ends_save (e : Execution) (ofContext : e.context.extras = []) (extras : e.extras = []) :
    Run.save.Ends inside reply e s (.ok ()) (e.stamped default).saved (.text e.status.text) := by
  have plain : (e.stamped default).Plain := by
    refine ⟨?_, ?_, ?_⟩ <;> simp [Execution.stamped, extras]
  have writes : Operation.ensureWritable (e.stamped default) = pure () :=
    if_pos (Run.isWritable_of_noExtras ofContext extras)
  have status : Row.get (Entries.set (e.stamped default).row "revision" (.int (e.revision + 1)))
      "status" = .text e.status.text := by
    rw [Row.get, Entries.get?_set_of_ne _ (by decide), Execution.get?_status plain]
    rfl
  rw [← status]
  refine .inward rfl rfl ?_
  change (((Operation.ensureWritable (e.stamped default)).run.bind _).bind _).Ends _ _ _ _ _
  rw [writes]
  exact .inward rfl rfl (.done _ _)

theorem ends_complete (e : Execution) (ofContext : e.context.extras = [])
    (extras : e.extras = []) :
    ∃ e', Run.complete.Ends inside reply e s (.ok ()) e' (.text Status.completed.text) :=
  ⟨_, .inward rfl rfl (ends_save (e.completed default) ofContext extras)⟩

theorem ends_fail (e : Execution) (ofContext : e.context.extras = []) (extras : e.extras = [])
    (reason : String) :
    ∃ e', (Run.fail reason).Ends inside reply e s (.ok ()) e' (.text Status.failed.text) :=
  ⟨_, ends_save (e.failed reason) ofContext extras⟩

/-- How the node is handled when the execution arrives at it. -/
def Handles (reply : (request : Request) → request.Answer) (deployment : Deployment)
    (account : Account) (kind : NodeKind) (data : NodeData)
    (outcome : Except Failure NodeOutcome) : Prop :=
  ∀ s, (Run.handleNode deployment account (flow (node kind data)) (node kind data)).Ends inside
    reply (arrived kind data) s outcome (arrived kind data) s

theorem visit_proceeds (handles : Handles reply deployment account kind data (.ok .proceed)) :
    (Run.visit deployment account (flow (node kind data)) (node kind data)).Ends inside reply
      arrival s (.ok (some .proceed)) ((arrived kind data).stamped default).saved
      (.text Status.active.text) :=
  .bind (.modify _) (.bind (.bind (handles s).attempt (.pure _))
    (.bind (ends_save _ rfl rfl) (.pure _)))

theorem visit_fails {failure : Failure} (other : failure.isConflict = false)
    (handles : Handles reply deployment account kind data (.error failure)) :
    ∃ e', (Run.visit deployment account (flow (node kind data)) (node kind data)).Ends inside reply
      arrival s (.ok none) e' (.text Status.failed.text) := by
  obtain ⟨e', fails⟩ : ∃ e', (Run.fail failure.record).Ends inside reply
      (arrived kind data) s (.ok ()) e' (.text Status.failed.text) :=
    ends_fail _ rfl rfl failure.record
  have executes : (Run.executeNode deployment account (flow (node kind data))
      (node kind data)).Ends inside reply (arrived kind data) s
      (.ok (.failed failure.record)) e' (.text Status.failed.text) := by
    refine .bind (handles s).attempt ?_
    simp only [other]
    exact .bind fails (.pure _)
  exact ⟨e', .bind (.modify _) (.bind executes (.pure _))⟩

theorem upcoming_arrival : Run.upcoming (flow (node kind data)) [] none arrival =
    some [node kind data] := rfl

theorem walk_completes (handles : Handles reply deployment account kind data (.ok .proceed)) :
    ∃ e', (Run.walk deployment account (flow (node kind data)) Run.maxSteps [] none).Ends inside
      reply arrival s (.ok ()) e' (.text Status.completed.text) := by
  obtain ⟨e', completes⟩ : ∃ e', Run.complete.Ends inside reply
      ((arrived kind data).stamped default).saved (.text Status.active.text) (.ok ())
      e' (.text Status.completed.text) := ends_complete _ rfl rfl
  refine ⟨e', ?_⟩
  unfold Run.walk
  refine .bind .get ?_
  simp only [upcoming_arrival]
  refine .bind (visit_proceeds handles) ?_
  unfold Run.walk
  exact .bind .get completes

theorem walk_fails {failure : Failure} (other : failure.isConflict = false)
    (handles : Handles reply deployment account kind data (.error failure)) :
    ∃ e', (Run.walk deployment account (flow (node kind data)) Run.maxSteps [] none).Ends inside
      reply arrival s (.ok ()) e' (.text Status.failed.text) := by
  obtain ⟨e', visits⟩ := visit_fails (s := s) other handles
  refine ⟨e', ?_⟩
  unfold Run.walk
  refine .bind .get ?_
  simp only [upcoming_arrival]
  exact .bind visits (.pure _)

/-- The flow is started. -/
def task (account : Account) (kind : NodeKind) (data : NodeData) : Task :=
  .start account (flow (node kind data)) event []

/-- The start of the flow ends as its walk does. -/
theorem start_ends (acts : kind = .message ∨ kind = .action) {status : Json} {e' : Execution}
    (walks : (Run.walk deployment account (flow (node kind data)) Run.maxSteps [] none).Ends inside
      reply arrival s (.ok ()) e' status) :
    ∃ report, ((task account kind data).operation deployment).run.Ends inside reply s report
      status := by
  have traverses : (Run.traverse deployment account (some (flow (node kind data)))).Ends inside
      reply arrival s (.ok ()) e' status := .bind .get (.bind (.done _ _) walks)
  have resumes : (Run.resume deployment account (some (flow (node kind data)))).Ends inside reply
      arrival s (.ok ()) e' status :=
    Program.Ends.traversing (Run.Ends.bind traverses.attempt (.pure ()))
  have records : (Run.lift (Store.recordTrigger (flow (node kind data)) default)).Ends inside reply
      arrival s (.ok ()) arrival s := .inward rfl rfl (.inward rfl rfl (.done _ _))
  have starts : (Run.traversing do
      let _ ← Run.attempt (Run.lift (Store.recordTrigger (flow (node kind data)) default))
      Run.resume deployment account (some (flow (node kind data)))).Ends inside reply arrival s
      (.ok ()) e' status := Program.Ends.traversing (Run.Ends.bind records.attempt resumes)
  refine ⟨.ok (.executions [] [e']), ?_⟩
  change ((Run.start deployment account _ event [] >>= _).run).Ends _ _ _ _ _
  unfold Run.start
  rw [triggers_eq acts]
  -- The clock, the id and the new row; then the traversal is its own run.
  refine .inward rfl rfl (.inward rfl rfl (.inward rfl rfl ?_))
  have ends := starts.bind (f := fun _ => do pure (some (← get))) (.bind .get (.pure (some e')))
  have runs : (Run.on arrival (do
      Run.traversing do
        let _ ← Run.attempt (Run.lift (Store.recordTrigger (flow (node kind data)) default))
        Run.resume deployment account (some (flow (node kind data)))
      pure (some (← get)))).run.Ends inside reply s (.ok (some e')) status :=
    Program.Ends.bind ends (.done _ _)
  exact runs.bind (.done _ _)

theorem task_completes (acts : kind = .message ∨ kind = .action)
    (proceeds : Handles reply deployment account kind data (.ok .proceed)) :
    ∃ report, ((task account kind data).operation deployment).run.Ends inside reply s report
      (.text Status.completed.text) :=
  (walk_completes proceeds).elim fun _ completes => start_ends acts completes

theorem task_fails (acts : kind = .message ∨ kind = .action) {failure : Failure}
    (other : failure.isConflict = false)
    (fails : Handles reply deployment account kind data (.error failure)) :
    ∃ report, ((task account kind data).operation deployment).run.Ends inside reply s report
      (.text Status.failed.text) :=
  (walk_fails other fails).elim fun _ fails => start_ends acts fails

/-- The outside answers in these words, and answers every post in this way. -/
def answering (text : String) (outcome : PostOutcome) : (request : Request) → request.Answer
  | .complete _ => .text (some text)
  | .post _ | .announce _ => outcome
  | request => Move.reply { client := 0 } request

theorem normal_answering {text : String} {outcome : PostOutcome} (normal : outcome ≠ .crashed)
    (request : Request) : request.IsNormal (answering text outcome request) := by
  cases request with
  | post | announce => exact normal
  | now | freshId | query | complete | remembered | remember | forget => trivial

/-- A message node without choices or an image posts its text, if there is any. -/
theorem handles_message {text : String} {outcome : Except Failure Unit}
    (plain : data.messageKind? = some .plain)
    (writes : ∀ s, (Run.messageText deployment account (node .message data)).Ends inside reply
      (arrived .message data) s (.ok text) (arrived .message data) s)
    (sends : ∀ s, (if !text.isEmpty then do
        let _ ← Run.lift (Gateway.sendText deployment account "sender" text)
      else pure () : Run Unit).Ends inside reply (arrived .message data) s outcome
        (arrived .message data) s) :
    Handles reply deployment account .message data (outcome.map fun _ => .proceed) := by
  intro s
  have options : Run.replyOptions (node .message data) = [] := by
    simp only [Run.replyOptions, node, plain]
  have noImage : (if (node .message data).data.messageKind? == some .image then
      (node .message data).data.imageUrl.filter (!·.isEmpty) else none) = none := by
    simp only [node, plain]
    rfl
  have ends : (Run.sendMessage deployment account (node .message data)).Ends inside reply
      (arrived .message data) s outcome (arrived .message data) s := by
    unfold Run.sendMessage
    refine .bind (writes s) (.bind .get ?_)
    simp only [noImage, options, List.isEmpty_nil, if_true]
    exact sends s
  cases outcome with
  | ok => exact .bind ends (.pure _)
  | error => exact .bind_error ends

theorem handles_text {text : String} {sent : Except Failure Bool}
    (plain : data.messageKind? = some .plain) (nonempty : text.isEmpty = false)
    (writes : ∀ s, (Run.messageText deployment account (node .message data)).Ends inside reply
      (arrived .message data) s (.ok text) (arrived .message data) s)
    (sends : ∀ s content, (Gateway.send deployment account "sender" content).run.Ends inside reply s
      sent s) :
    Handles reply deployment account .message data (sent.map fun _ => .proceed) := by
  have handles := handles_message plain writes fun s => by
    rw [nonempty]
    exact .forget (.lift (sends s _))
  cases sent with
  | ok => exact handles
  | error => exact handles

theorem handles_blank {text : String} (plain : data.messageKind? = some .plain)
    (blank : text.isEmpty = true)
    (writes : ∀ s, (Run.messageText deployment account (node .message data)).Ends inside reply
      (arrived .message data) s (.ok text) (arrived .message data) s) :
    Handles reply deployment account .message data (.ok .proceed) := by
  have handles : Handles reply deployment account .message data
      ((Except.ok () : Except Failure Unit).map fun _ => .proceed) :=
    handles_message plain writes fun s => by
      rw [blank]
      exact .pure ()
  exact handles

def fixed : NodeData := { text := some "Hi" }

def written : NodeData := { useAI := some true }

def told : NodeData := { actionType := some ActionKind.notify.text }

theorem ends_fixed : (Run.messageText deployment account (node .message fixed)).Ends inside reply
    (arrived .message fixed) s
    (.ok ((arrived .message fixed).fill "Hi"))
    (arrived .message fixed) s :=
  .bind .get (.pure _)

theorem ends_written {text : String} {outcome : PostOutcome}
    (hasAssistant : deployment.hasAssistant = true) :
    (Run.messageText deployment account (node .message written)).Ends inside
      (answering text outcome) (arrived .message written) s
      (.ok (Assistant.replyText (.text (some text))))
      (arrived .message written) s := by
  refine .bind .get (.lift ?_)
  unfold Assistant.reply
  rw [if_pos hasAssistant]
  exact .outward rfl (.done _ _)

/-- Two answers of the outside send a flow of one node different ways. -/
def Forks (deployment : Deployment) (account : Account) : Prop :=
  ∃ (kind : NodeKind) (data : NodeData) (reply reply' : (request : Request) → request.Answer)
    (failure : Failure), (kind = .message ∨ kind = .action) ∧
      (∀ request : Request, request.IsNormal (reply request)) ∧
      (∀ request : Request, request.IsNormal (reply' request)) ∧ failure.isConflict = false ∧
      Handles reply deployment account kind data (.ok .proceed) ∧
      Handles reply' deployment account kind data (.error failure)

theorem ends_unreachable (address : Address) (codes : List Int) (s : Json) :
    (Delivery.isAccepted address codes .unreachable).run.Ends inside reply s (.ok false) s :=
  .done _ _

theorem ends_relative {address : Address} (relative : address.isAbsolute = false)
    (codes : List Int) (code : Int) (s : Json) :
    (Delivery.isAccepted address codes (.status code)).run.Ends inside reply s
      (.error (.unknownScheme address.text)) s := by
  rw [Delivery.isAccepted_of_relative relative]
  exact .done _ _

theorem forks_of_relative {token : String} {address : Address}
    (given : account.token? = some token) (header : IsHeader token)
    (targets : Delivery.target (account.messagesUrl deployment.graphUrl) = .ok address)
    (relative : address.isAbsolute = false) : Forks deployment account := by
  have nonempty : ((arrived .message fixed).fill "Hi").isEmpty = false := by
    decide +kernel
  have sends (outcome : PostOutcome) (sent : Except Failure Bool)
      (judged : ∀ s, (Delivery.isAccepted address [200] outcome).run.Ends inside
        (answering "" outcome) s sent s) (s : Json) (content : MessageContent) :
      (Gateway.send deployment account "sender" content).run.Ends inside (answering "" outcome) s
        sent s := by
    rw [Gateway.send_of_target given header targets]
    exact .outward rfl (judged s)
  refine ⟨.message, fixed, answering "" .unreachable, answering "" (.status 200),
    .unknownScheme address.text, .inl rfl, normal_answering nofun, normal_answering nofun, rfl, ?_,
    ?_⟩
  · exact handles_text rfl nonempty (fun _ => ends_fixed)
      (sends .unreachable (.ok false) (ends_unreachable address [200]))
  · exact handles_text rfl nonempty (fun _ => ends_fixed)
      (sends (.status 200) (.error _) (ends_relative relative [200] 200))

theorem forks_of_not_canPost {token : String} (hasAssistant : deployment.hasAssistant = true)
    (given : account.token? = some token) (cannot : ¬ deployment.CanPost account token) :
    Forks deployment account := by
  obtain ⟨failure, other, throws⟩ := Gateway.send_of_not_canPost given cannot
  have blank : (Assistant.replyText (.text (some " "))).isEmpty = true := by decide +kernel
  have nonempty : (Assistant.replyText (.text (some "Hi"))).isEmpty = false := by decide +kernel
  refine ⟨.message, written, answering " " .unreachable, answering "Hi" .unreachable, failure,
    .inl rfl, normal_answering nofun, normal_answering nofun, other, ?_, ?_⟩
  · exact handles_blank rfl blank fun _ => ends_written hasAssistant
  · have sends (s : Json) (content : MessageContent) :
        (Gateway.send deployment account "sender" content).run.Ends inside
          (answering "Hi" .unreachable) s (.error failure) s := by
      rw [throws]
      exact .done _ _
    exact handles_text rfl nonempty (fun _ => ends_written hasAssistant) sends

/-- What the owner is told about the execution. -/
def notification : Notification where
  type := .flowNotify
  accountId := "account"
  executionId := ""
  flowId := "flow"
  senderId := "sender"
  senderUsername := none
  recipientEmail := none
  context := (arrived .action told).context
  createdAt := default

theorem ends_notification {sent : Except Failure Bool}
    (hasWebhook : deployment.webhookUrl.isEmpty = false)
    (announces : ∀ s, (Notification.announce deployment notification).run.Ends inside reply s sent
      s) :
    (Notification.send deployment (arrived .action told) none .flowNotify).run.Ends inside reply s
      (sent.map fun delivered => { notification with delivered }) s := by
  have writes : Operation.ensureWritable (arrived .action told).context = pure () := if_pos rfl
  have announced : (do
      let delivered ← Notification.announce deployment notification
      pure { notification with delivered } : Operation Notification).run.Ends inside reply s
      (sent.map fun delivered => { notification with delivered }) s := by
    refine Program.Ends.bind (announces s) ?_
    cases sent with
    | ok => exact .done _ _
    | error => exact .done _ _
  unfold Notification.send
  rw [writes]
  refine .inward rfl rfl ?_
  cases keeps : deployment.keepsNotifications with
  | true =>
    simp only [hasWebhook, if_true]
    exact .inward rfl rfl announced
  | false =>
    simp only [hasWebhook]
    exact announced

theorem handles_told {sent : Except Failure Bool}
    (hasWebhook : deployment.webhookUrl.isEmpty = false)
    (announces : ∀ s, (Notification.announce deployment notification).run.Ends inside reply s sent
      s) :
    Handles reply deployment account .action told (sent.map fun _ => .proceed) := by
  intro s
  have tells : (Run.performAction deployment account told).Ends inside reply
      (arrived .action told) s
      ((sent.map fun delivered => { notification with delivered }).map fun _ => ())
      (arrived .action told) s :=
    .bind .get (.forget (.lift (ends_notification hasWebhook announces)))
  cases sent with
  | ok => exact .bind tells (.pure _)
  | error => exact .bind_error tells

theorem forks_of_webhook {address : Address} (hasWebhook : deployment.webhookUrl.isEmpty = false)
    (targets : Delivery.target deployment.webhookUrl = .ok address)
    (relative : address.isAbsolute = false) : Forks deployment account := by
  have finite : Json.isFinite (.record notification.row) = true := by decide +kernel
  have announces (outcome : PostOutcome) (sent : Except Failure Bool)
      (judged : ∀ s, (Delivery.isAccepted address Notification.acceptedCodes outcome).run.Ends
        inside (answering "" outcome) s sent s) (s : Json) :
      (Notification.announce deployment notification).run.Ends inside (answering "" outcome) s sent
        s := by
    rw [Notification.announce_of_target targets finite]
    exact .outward rfl (judged s)
  refine ⟨.action, told, answering "" .unreachable, answering "" (.status 200),
    .unknownScheme address.text, .inr rfl, normal_answering nofun, normal_answering nofun, rfl, ?_,
    ?_⟩
  · exact handles_told hasWebhook
      (announces .unreachable (.ok false) (ends_unreachable address Notification.acceptedCodes))
  · exact handles_told hasWebhook
      (announces (.status 200) (.error _) (ends_relative relative Notification.acceptedCodes 200))

/-- Where no flow of one node forks, the deployment reaches the account. -/
theorem reaches_of_not_forks (never : ¬ Forks deployment account) : deployment.Reaches account where
  toHost _ _ given header targets :=
    Bool.of_not_eq_false fun relative => never (forks_of_relative given header targets relative)
  assisted hasAssistant _ given :=
    not_not.mp fun cannot => never (forks_of_not_canPost hasAssistant given cannot)
  webhook hasWebhook _ targets :=
    Bool.of_not_eq_false fun relative => never (forks_of_webhook hasWebhook targets relative)

end Steering
end MessageFlow
